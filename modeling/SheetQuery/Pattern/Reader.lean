import SheetQuery.Decimal.Reading
import SheetQuery.Pattern.Assembly
import SheetQuery.Pattern.Class
import SheetQuery.Text.Alphabetic

/-!
# Reading patterns

The text of a pattern: characters, classes, groups, repetitions, alternatives, anchors and flags. There are no
references to groups and no conditions on what comes before or after a match; a pattern with such things, or one that is
malformed, is refused, and so is one that is nested too deep or whose automaton would be too large.
-/

namespace SheetQuery.Pattern

open Text Decimal

/-! ## Repetitions -/

/-- The largest number that a repetition can name. -/
def countLimit : Nat := 4294967295

/-- A number at the front of a text with white space around it, if there is one; `some none` if there is no digit. -/
def readCount (flags : Flags) (text : List Char) : Option (Option Nat × List Char) :=
  let spaced := text.dropWhile isBlank
  let isCountChar (c : Char) : Bool := c.isDigit || (flags.verbose && isBlank c)
  let digits := (spaced.takeWhile isCountChar).filter Char.isDigit
  let rest := (spaced.dropWhile isCountChar).dropWhile isBlank
  if digits.isEmpty then some (none, rest)
  else
    let n := natOfDigits digits
    if n ≤ countLimit then some (some n, rest) else none

/-- How often a repetition repeats, and whether it prefers to be long. -/
structure Bounds where
  least : Nat
  most : Option Nat
  greedy : Bool
  deriving Repr

/-- The bounds of a repetition with the mark that may follow it. -/
def readMark (flags : Flags) (least : Nat) (most : Option Nat) (text : List Char) : Bounds × List Char :=
  match text with
  | '?' :: rest => (⟨least, most, flags.lazy⟩, rest)
  | rest => (⟨least, most, !flags.lazy⟩, rest)

/-- The bounds of a counted repetition whose opening brace has been read. -/
def readBounds (flags : Flags) (text : List Char) : Option (Bounds × List Char) := do
  let (least, rest) ← readCount flags (flags.skip text)
  let least ← least
  match rest with
  | '\x7d' :: after => return readMark flags least (some least) (flags.skip after)
  | ',' :: rest =>
    match flags.skip rest with
    | '\x7d' :: after => return readMark flags least none (flags.skip after)
    | rest => do
      let (most, rest) ← readCount flags rest
      let most ← most
      match rest with
      | '\x7d' :: after => if least ≤ most then return readMark flags least (some most) (flags.skip after) else none
      | _ => none
  | _ => none

/-! ## Groups -/

/-- The letters of flags, up to what ends them. No flag may come twice, and something must follow a minus sign. -/
def readFlags (flags : Flags) (seen : List Char) (negative : Bool) : List Char → Option (Flags × Bool × List Char)
  | [] => none
  | ':' :: rest => if seen.head? == some '-' then none else some (flags, true, rest)
  | ')' :: rest => if seen.head? == some '-' || seen.isEmpty then none else some (flags, false, rest)
  | c :: rest =>
    if seen.contains c then none
    else
      let on := !negative
      if c = '-' then readFlags flags (c :: seen) true rest
      else if c = 'i' then readFlags { flags with caseInsensitive := on } (c :: seen) negative rest
      else if c = 'm' then readFlags { flags with multiLine := on } (c :: seen) negative rest
      else if c = 's' then readFlags { flags with dotAll := on } (c :: seen) negative rest
      else if c = 'R' then readFlags { flags with crlf := on } (c :: seen) negative rest
      else if c = 'u' then readFlags { flags with allScripts := on } (c :: seen) negative rest
      else if c = 'x' then readFlags { flags with verbose := on } (c :: seen) negative rest
      else if c = 'U' then readFlags { flags with lazy := on } (c :: seen) negative rest
      else none

/-- Whether a character can stand in the name of a group. -/
def isNameChar (first : Bool) (c : Char) : Bool :=
  if first then c == '_' || alphabetic.holds c
  else c == '_' || c == '.' || c == '[' || c == ']' || alphabetic.holds c || numerals.holds c

/-- The groups seen so far: the names of those that have one, and how many have a number. -/
structure Seen where
  names : List (List Char)
  groups : Nat

/-- The groups with one more, and its number. -/
def Seen.number (seen : Seen) : Nat × Seen :=
  (seen.groups + 1, { seen with groups := seen.groups + 1 })

/-- The name of a group up to its closing angle bracket. It must be new. -/
def readName (seen : Seen) (text : List Char) : Option (Seen × List Char) :=
  let name := text.takeWhile (· != '>')
  match text.dropWhile (· != '>'), name with
  | '>' :: rest, c :: cs =>
    if isNameChar true c && cs.all (isNameChar false) && !seen.names.contains name then
      some ({ seen with names := name :: seen.names }, rest)
    else none
  | _, _ => none

/-! ## The whole pattern -/

/-- An expression, and how deep the text is nested that stands for it. -/
structure Piece where
  regex : Regex
  depth : Nat
  deriving Repr

/-- The depth of what is put together: several things are one level more than the deepest of them. -/
def depthOfAll (depths : List Nat) : Nat :=
  match depths with
  | [] => 0
  | [depth] => depth
  | depths => depths.foldl max 0 + 1

/-- A part of a sequence: an expression that can be repeated, or flags, which cannot. -/
inductive Part where
  | expression (piece : Piece)
  | flags
  deriving Repr

/-- The expression of a part. -/
def Part.regex : Part → Regex
  | .expression piece => piece.regex
  | .flags => .empty

/-- The depth of a part. -/
def Part.depth : Part → Nat
  | .expression piece => piece.depth
  | .flags => 0

/-- The sequence of parts, the last of which comes first. -/
def sequence (parts : List Part) : Piece :=
  ⟨.concat (parts.reverse.map Part.regex), depthOfAll (parts.map Part.depth)⟩

/-- A piece, unless it is nested too deep. -/
def Piece.ofDepth? (regex : Regex) (depth : Nat) : Option Piece :=
  if depth ≤ nestLimit then some ⟨regex, depth⟩ else none

/-- The parts with the last of them repeated; there must be one that can be. -/
def repeatLast (parts : List Part) (bounds : Bounds) : Option (List Part) :=
  match parts with
  | .expression piece :: earlier => do
    let regex := piece.regex.times bounds.least bounds.most bounds.greedy
    return .expression (← Piece.ofDepth? regex (piece.depth + 1)) :: earlier
  | _ => none

/-- A character of the pattern that stands for itself, in either case where case does not count. -/
def literal (flags : Flags) (c : Char) : Regex :=
  if flags.allScripts || c.toNat < 0x80 then .ofSet (flags.fold (.single c)) else .literal [c]

/-- What a point stands for. -/
def anyChar? (flags : Flags) : Option Regex :=
  let ends := if flags.crlf then CharSet.union (.single '\n') (.single '\r') else .single '\n'
  if !flags.allScripts then none
  else some (.ofSet (CharSet.complement (if flags.dotAll then .none else ends)))

/-- The pattern of an escape. -/
def Escape.regex? (flags : Flags) : Escape → Option Regex
  | .chars set => some (.ofSet set)
  | .look condition => some (.look condition (condition.isAboutWords && !flags.allScripts))
  | other => (other.char? flags).map (literal flags)

/-- What is at the front of a text that ends neither a group nor an alternative, nor repeats anything. -/
def readSimple (flags : Flags) : List Char → Option (Piece × List Char)
  | [] => none
  | '\\' :: rest => do
    let (escape, rest) ← readEscape flags rest
    return (⟨← escape.regex? flags, 0⟩, rest)
  | '.' :: rest => do return (⟨← anyChar? flags, 0⟩, rest)
  | '^' :: rest =>
    let condition := if flags.multiLine then if flags.crlf then Look.crlfStart else .lineStart else .textStart
    some (⟨.look condition false, 0⟩, rest)
  | '$' :: rest =>
    let condition := if flags.multiLine then if flags.crlf then Look.crlfEnd else .lineEnd else .textEnd
    some (⟨.look condition false, 0⟩, rest)
  | '[' :: rest => do
    let (inside, rest) ← readClass flags (2 * rest.length + 2) nestLimit rest
    return (⟨.ofSet inside.set, inside.depth⟩, rest)
  | c :: rest => some (⟨literal flags c, 0⟩, rest)

/-- What has been read of a group: its alternatives so far and the parts of the last one, each list with the last first,
the flags, and all groups seen. -/
structure Progress where
  earlier : List Piece
  parts : List Part
  flags : Flags
  seen : Seen

/-- A group that begins, with flags of its own. -/
def Progress.start (flags : Flags) (seen : Seen) : Progress :=
  ⟨[], [], flags, seen⟩

/-- One part more. -/
def Progress.push (progress : Progress) (part : Part) : Progress :=
  { progress with parts := part :: progress.parts }

/-- The next alternative begins. -/
def Progress.turn (progress : Progress) : Progress :=
  { progress with earlier := sequence progress.parts :: progress.earlier, parts := [] }

/-- What a group has been read to be. -/
def Progress.piece (progress : Progress) : Piece :=
  match progress.earlier with
  | [] => sequence progress.parts
  | earlier =>
    let members := sequence progress.parts :: earlier
    ⟨.choice (members.reverse.map Piece.regex), depthOfAll (members.map Piece.depth)⟩

/-- Reads up to the end of a group or of the text, with room for so many levels. What follows begins with the closing
parenthesis of the group, if there is one. -/
def readGroup (fuel levels : Nat) (progress : Progress) (text : List Char) : Option (Piece × Seen × List Char) :=
  match fuel with
  | 0 => none
  | fuel + 1 =>
    let flags := progress.flags
    let readInner (flags : Flags) (seen : Seen) (close : Regex → Regex) (text : List Char) := do
      match levels with
      | 0 => none
      | levels' + 1 =>
        match ← readGroup fuel levels' (.start flags seen) text with
        | (piece, seen, ')' :: rest) =>
          let piece ← Piece.ofDepth? (close piece.regex) (piece.depth + 1)
          readGroup fuel levels { progress.push (.expression piece) with seen := seen } rest
        | _ => none
    let readNumbered (seen : Seen) (text : List Char) :=
      let (number, seen) := seen.number
      readInner flags seen (.group number) text
    let readRepeated (bounds : Bounds) (rest : List Char) := do
      readGroup fuel levels { progress with parts := ← repeatLast progress.parts bounds } rest
    match flags.skip text with
    | [] => some (progress.piece, progress.seen, [])
    | ')' :: rest => some (progress.piece, progress.seen, ')' :: rest)
    | '|' :: rest => readGroup fuel levels progress.turn rest
    | '(' :: rest =>
      match flags.skip rest with
      | '?' :: 'P' :: '<' :: rest => do
        let (seen, rest) ← readName progress.seen rest
        readNumbered seen rest
      | '?' :: '<' :: rest => do
        let (seen, rest) ← readName progress.seen rest
        readNumbered seen rest
      | '?' :: rest => do
        match ← readFlags flags [] false rest with
        | (flags, true, rest) => readInner flags progress.seen id rest
        | (flags, false, rest) => readGroup fuel levels { progress.push .flags with flags := flags } rest
      | rest => readNumbered progress.seen rest
    | '?' :: rest => let (bounds, rest) := readMark flags 0 (some 1) rest; readRepeated bounds rest
    | '*' :: rest => let (bounds, rest) := readMark flags 0 none rest; readRepeated bounds rest
    | '+' :: rest => let (bounds, rest) := readMark flags 1 none rest; readRepeated bounds rest
    | '\x7b' :: rest => do
      let (bounds, rest) ← readBounds flags rest
      readRepeated bounds rest
    | text => do
      let (piece, rest) ← readSimple flags text
      readGroup fuel levels (progress.push (.expression piece)) rest

/-- The expression that a text stands for. -/
def readRegex? (text : String) : Option Regex :=
  let chars := text.toList
  match readGroup (2 * chars.length + 2) nestLimit (.start .default ⟨[], 0⟩) chars with
  | some (piece, _, []) => if piece.depth ≤ nestLimit then some piece.regex else none
  | _ => none

/-- The automaton of the pattern that a text stands for. -/
def read? (text : String) : Option Automaton :=
  (readRegex? text).bind Regex.automaton?

end SheetQuery.Pattern
