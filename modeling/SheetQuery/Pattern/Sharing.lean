import SheetQuery.Pattern.Automaton
import Std.Data.HashMap

/-!
# The states of a set of characters

A set of characters is read byte by byte, by states that sequences of byte ranges share. Which states there are already is
looked up in a table of limited size, in which a state takes the place of an earlier one with the same slot; so a state may
be made twice, and the weight of a set depends on the numbers of its states.
-/

namespace SheetQuery.Pattern

/-- A state by what it does, and its number, for each slot in use. -/
abbrev SlotTable := Std.HashMap Nat (List Edge × Nat)

/-- A step in putting a set together. -/
abbrev Sharing := StateT SlotTable Assembly

/-- A hash with one more number in it. -/
def mix (hash : UInt64) (n : Nat) : UInt64 :=
  (hash ^^^ UInt64.ofNat n) * 1099511628211

/-- The hash of nothing. -/
def emptyHash : UInt64 := 14695981039346656037

/-- The state in a slot if it does the same, or else a new one, which takes the slot. -/
def shared (slot : Nat) (edges : List Edge) (state : State) : Sharing Nat := do
  let make : Sharing Nat := do
    let number ← addState state
    modify (·.insert slot (edges, number))
    return number
  match (← get)[slot]? with
  | some (known, number) => if known = edges then return number else make
  | none => make

/-! ## From the first byte to the last -/

/-- The slots for states that read forward. -/
def forwardSlots : UInt64 := 10000

/-- The slot of a state that reads forward. -/
def forwardSlot (edges : List Edge) : Nat :=
  let hash := edges.foldl (fun hash edge => mix (mix (mix hash edge.range.first.toNat) edge.range.last.toNat) edge.next)
    emptyHash
  (hash % forwardSlots).toNat

/-- A state whose edges are not all known: where its last range leads to is still open. The edges come last first. -/
structure Open where
  edges : List Edge
  pending : Option ByteRange

/-- An open state once it is known where its last range leads to. -/
def Open.settle (state : Open) (next : Nat) : Open :=
  match state.pending with
  | some range => ⟨⟨range, next⟩ :: state.edges, none⟩
  | none => state

/-- Open states, each of which is led to by the pending range of the one before, made into states from the last one on.
The result is the number of the first, or of the target if there is none. -/
def makeStates (target : Nat) : List Open → Sharing Nat
  | [] => return target
  | first :: deeper => do
    let edges := (first.settle (← makeStates target deeper)).edges.reverse
    shared (forwardSlot edges) edges (.bytes edges)

/-- How many ranges of a sequence are pending in open states. -/
def pendingLength : List ByteRange → List Open → Nat
  | range :: ranges, first :: deeper => if first.pending = some range then pendingLength ranges deeper + 1 else 0
  | _, _ => 0

/-- The open states after so many, the one before them settled. -/
def settleAfter (target : Nat) : Nat → List Open → Sharing (List Open)
  | _, [] => return []
  | 0, first :: deeper => do return [first.settle (← makeStates target deeper)]
  | n + 1, first :: deeper => do return first :: (← settleAfter target n deeper)

/-- The open states with one more sequence pending behind the last of them. -/
def appendPending : List Open → List ByteRange → List Open
  | [last], range :: ranges => { last with pending := some range } :: ranges.map fun range => ⟨[], some range⟩
  | first :: deeper, ranges => first :: appendPending deeper ranges
  | [], _ => []

/-- The open states with one more sequence, which comes behind all earlier ones. -/
def addSequence (target : Nat) (states : List Open) (ranges : List ByteRange) : Sharing (List Open) := do
  let length := pendingLength ranges states
  return appendPending (← settleAfter target length states) (ranges.drop length)

/-- A set of characters, read from the first byte on. -/
def forwardSet (sequences : List (List ByteRange)) : Assembly Fragment := do
  let target ← addState (.pass 0)
  let build : Sharing Nat := do
    let states ← sequences.foldlM (addSequence target) [⟨[], none⟩]
    makeStates target states
  let (first, _) ← build.run ∅
  return ⟨first, target⟩

/-! ## From the last byte to the first -/

/-- The slots for states that read backward. -/
def backwardSlots : UInt64 := 1000

/-- The slot of a state that reads backward. -/
def backwardSlot (edge : Edge) : Nat :=
  let hash := mix (mix (mix emptyHash edge.next) edge.range.first.toNat) edge.range.last.toNat
  (hash % backwardSlots).toNat

/-- A sequence of ranges, the first of which is read last. The result is the number of its first state. -/
def backwardSequence (last : Nat) (ranges : List ByteRange) : Sharing Nat :=
  ranges.foldlM (fun next range =>
    let edge : Edge := ⟨range, next⟩
    shared (backwardSlot edge) [edge] (.byte edge)) last

/-- A set of characters, read from the last byte on. -/
def backwardSet (sequences : List (List ByteRange)) : Assembly Fragment := do
  let split ← addState (.split #[])
  let last ← addState (.pass 0)
  let build : Sharing Unit :=
    sequences.forM fun ranges => do connect split (← backwardSequence last ranges)
  let _ ← build.run ∅
  return ⟨split, last⟩

/-! ## Either way -/

/-- A set of characters of the ASCII set. -/
def asciiSet (chars : CharSet) : Assembly Fragment := do
  let last ← addState (.pass 0)
  let edges := chars.intervals.map fun (a, b) => ⟨⟨UInt8.ofNat a, UInt8.ofNat b⟩, last⟩
  let first ← addState (.bytes edges)
  return ⟨first, last⟩

/-- A set of characters. -/
def charSet (backward : Bool) (chars : CharSet) : Assembly Fragment :=
  if chars.isAscii then asciiSet chars
  else
    let sequences := chars.intervals.flatMap byteSequences
    if backward then backwardSet sequences else forwardSet sequences

end SheetQuery.Pattern
