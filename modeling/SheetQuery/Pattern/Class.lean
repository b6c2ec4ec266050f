import SheetQuery.Pattern.Escape

/-!
# Classes

The text of a class in brackets: characters, ranges, other classes, and the operations between them. How deep brackets and
operations are nested within each other is counted.
-/

namespace SheetQuery.Pattern

open Text

/-- No pattern is nested deeper than this. -/
def nestLimit : Nat := 250

/-- An item of a class: a character, which may begin a range, or a set. -/
inductive ClassItem where
  | char (c : Char)
  | chars (set : CharSet)
  deriving Repr

/-- The set of an item. -/
def ClassItem.set : ClassItem → CharSet
  | .char c => .single c
  | .chars set => set

/-- A character as an item. Without all scripts a class must stay within the ASCII set. -/
def Flags.item? (flags : Flags) (c : Char) : Option ClassItem :=
  if flags.allScripts || c.toNat < 0x80 then some (.char c) else none

/-- An item at the front of a text. -/
def readItem (flags : Flags) : List Char → Option (ClassItem × List Char)
  | [] => none
  | '\\' :: rest => do
    let (escape, rest) ← readEscape flags rest
    match escape with
    | .chars set => return (.chars set, rest)
    | .look _ => none
    | other => return (← flags.item? (← other.char? flags), rest)
  | c :: rest => do return (← flags.item? c, rest)

/-- An item or a range at the front of a text. A hyphen before a closing bracket or another hyphen makes no range. -/
def readRange (flags : Flags) (text : List Char) : Option (CharSet × List Char) := do
  let (first, rest) ← readItem flags text
  match flags.skip rest with
  | [] => none
  | '-' :: after =>
    let next := (flags.skip after).head?
    if next == some ']' || next == some '-' then return (first.set, '-' :: after)
    else do
      let (last, rest) ← readItem flags (flags.skip after)
      match first, last with
      | .char a, .char b => if a ≤ b then return (.interval a.toNat b.toNat, rest) else none
      | _, _ => none
  | rest => return (first.set, rest)

/-- A class by its name in colons, whose opening bracket has been read. -/
def readNamedClass (text : List Char) : Option (CharSet × Bool × List Char) :=
  match text with
  | ':' :: rest =>
    let (negated, rest) := match rest with
      | '^' :: rest => (true, rest)
      | rest => (false, rest)
    let name := rest.takeWhile (· != ':')
    match rest.dropWhile (· != ':') with
    | ':' :: ']' :: after => (CharSet.ascii? (String.ofList name)).map fun set => (set, negated, after)
    | _ => none
  | _ => none

/-- The operations between the sets of a class. -/
inductive SetOperation where
  | intersection
  | difference
  | symmetricDifference
  deriving Repr, DecidableEq

/-- A set as the flags take it: with all case variants where case does not count. -/
def Flags.fold (flags : Flags) (set : CharSet) : CharSet :=
  if flags.caseInsensitive then
    if flags.allScripts then set.folded
    else set.union (set.folded.both (.interval 0 0x7f))
  else set

/-- The result of an operation. -/
def SetOperation.apply (operation : SetOperation) (a b : CharSet) : CharSet :=
  match operation with
  | .intersection => a.both b
  | .difference => a.difference b
  | .symmetricDifference => a.oneOf b

/-- A set, and how deep the class is nested that stands for it. -/
structure NestedSet where
  set : CharSet
  depth : Nat
  deriving Repr

/-- What has been read of the items of a class. -/
structure Items where
  /-- The intervals of all items, in any order. -/
  points : CodePoints
  count : Nat
  /-- The depth of the deepest item. -/
  depth : Nat

/-- No items. -/
def Items.none : Items := ⟨[], 0, 0⟩

/-- One item more. -/
def Items.add (items : Items) (item : NestedSet) : Items :=
  ⟨item.set.intervals ++ items.points, items.count + 1, max items.depth item.depth⟩

/-- The items together. Several items are one level more. -/
def Items.all (items : Items) : NestedSet :=
  ⟨.ofIntervals items.points, if items.count ≤ 1 then items.depth else items.depth + 1⟩

/-- The set of what has been read, and of the operation that waits for its right side. An operation is one level more. -/
def settle (flags : Flags) (waiting : Option (SetOperation × NestedSet)) (items : Items) : NestedSet :=
  let right := items.all
  match waiting with
  | none => right
  | some (operation, left) =>
    ⟨operation.apply (flags.fold left.set) (flags.fold right.set), max left.depth right.depth + 1⟩

/-- The complement of a set if it is negated; without all scripts a class must stay within the ASCII set. -/
def Flags.negate (flags : Flags) (negated : Bool) (set : CharSet) : Option CharSet :=
  if negated then if flags.allScripts then some set.complement else none else some set

/-- The hyphens at the beginning of a class, and a closing bracket if it is the first character, stand for themselves. -/
def readLeading (flags : Flags) : Nat → Bool → Items → List Char → Items × List Char
  | 0, _, items, text => (items, text)
  | n + 1, first, items, text =>
    match flags.skip text with
    | '-' :: rest => readLeading flags n false (items.add ⟨.single '-', 0⟩) rest
    | ']' :: rest => if first then (items.add ⟨.single ']', 0⟩, rest) else (items, ']' :: rest)
    | rest => (items, rest)

mutual

/-- A class whose opening bracket has been read, with room for so many levels. -/
def readClass (flags : Flags) (fuel levels : Nat) (text : List Char) : Option (NestedSet × List Char) :=
  match fuel, levels with
  | 0, _ | _, 0 => none
  | fuel + 1, levels + 1 =>
    let (negated, text) := match flags.skip text with
      | '^' :: rest => (true, rest)
      | rest => (false, rest)
    let (items, text) := readLeading flags text.length true .none text
    do
      let (inside, rest) ← readClassItems flags fuel levels none items text
      return (⟨← flags.negate negated (flags.fold inside.set), inside.depth + 1⟩, rest)

/-- The items of a class up to its closing bracket. -/
def readClassItems (flags : Flags) (fuel levels : Nat) (waiting : Option (SetOperation × NestedSet)) (items : Items)
    (text : List Char) : Option (NestedSet × List Char) :=
  match fuel with
  | 0 => none
  | fuel + 1 =>
    match flags.skip text with
    | [] => none
    | '[' :: rest =>
      match readNamedClass rest with
      | some (named, negated, rest) => do
        let set ← flags.negate negated (flags.fold named)
        readClassItems flags fuel levels waiting (items.add ⟨set, 0⟩) rest
      | none => do
        let (inner, rest) ← readClass flags fuel levels rest
        readClassItems flags fuel levels waiting (items.add inner) rest
    | ']' :: rest => some (settle flags waiting items, rest)
    | '&' :: '&' :: rest =>
      readClassItems flags fuel levels (some (.intersection, settle flags waiting items)) .none rest
    | '-' :: '-' :: rest =>
      readClassItems flags fuel levels (some (.difference, settle flags waiting items)) .none rest
    | '~' :: '~' :: rest =>
      readClassItems flags fuel levels (some (.symmetricDifference, settle flags waiting items)) .none rest
    | c :: rest => do
      let (range, rest) ← readRange flags (c :: rest)
      readClassItems flags fuel levels waiting (items.add ⟨range, 0⟩) rest

end

end SheetQuery.Pattern
