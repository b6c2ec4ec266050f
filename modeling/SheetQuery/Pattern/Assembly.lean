import SheetQuery.Pattern.Literals
import SheetQuery.Pattern.Normal
import SheetQuery.Pattern.Sharing

/-!
# From expressions to automata

The automaton of an expression, with all repetitions written out. An expression has one that reads a text from its first
byte on, and another one that reads it from its last byte on; it is too large if either of them is too heavy, though only
the first is used.
-/

namespace SheetQuery.Pattern

open Text

namespace Regex

/-- The text of a literal as bytes. -/
def bytes? : Regex → Option (List UInt8)
  | .literal text => some (text.flatMap String.utf8EncodeChar)
  | _ => none

/-- A fragment followed by bytes. -/
def appendBytes : List UInt8 → Fragment → Assembly Fragment
  | [], fragment => return fragment
  | b :: bytes, fragment => do
    let next ← addState (.byte ⟨.single b, 0⟩)
    connect fragment.last next
    appendBytes bytes ⟨fragment.first, next⟩

/-- The fragment of bytes one after the other. -/
def ofBytes : List UInt8 → Assembly Fragment
  | [] => single (.pass 0)
  | b :: bytes => do appendBytes bytes (← single (.byte ⟨.single b, 0⟩))

/-- Bytes in the order in which they are read. -/
def inOrder (backward : Bool) (bytes : List UInt8) : List UInt8 :=
  if backward then bytes.reverse else bytes

/-- A fragment as often as a repetition allows. -/
def repeatBody (regex : Regex) (body : Assembly Fragment) (least : Nat) (most : Option Nat) : Assembly Fragment :=
  match least, most with
  | 0, some 1 => optionally body
  | 0, none => if 0 < regex.leastLength.getD 0 then anyTimes body else anyTimesOrNone body
  | 1, none => orAgain body
  | least, none => andThen (exactly body (least - 1)) (orAgain body)
  | least, some most => if least = most then exactly body least else between body least most

/-- An expression joined to a choice; a choice joins member by member, unless it is one between literals alone. -/
def gather (backward : Bool) : Regex → Junction → Assembly Junction
  | .empty, junction => do junction.join (← single (.pass 0))
  | .literal text, junction => do
    junction.join (← ofBytes (inOrder backward (text.flatMap String.utf8EncodeChar)))
  | .set chars, junction => do junction.join (← charSet backward chars)
  | .look condition ascii, junction => do junction.join (← single (.look condition ascii 0))
  | .repeated body least most _, junction => do
    let fragment : Assembly Fragment := do (← body.gather backward .nothing).close
    junction.join (← repeatBody body fragment least most)
  | .group _ body, junction => do
    let fragment : Assembly Fragment := do (← body.gather backward .nothing).close
    if backward then junction.join (← fragment)
    else
      let start ← addState (.pass 0)
      let body ← fragment
      let last ← addState (.pass 0)
      connect start body.first
      connect body.last last
      junction.join ⟨start, last⟩
  | .seq first rest, junction => do
    let first : Assembly Fragment := do (← first.gather backward .nothing).close
    let rest : Assembly Fragment := do (← rest.gather backward .nothing).close
    junction.join (← if backward then andThen rest first else andThen first rest)
  | .alt first rest, junction =>
    match junction, (Regex.alt first rest).alternatives.mapM bytes? with
    | .nothing, some texts => do junction.join (← choiceOfTexts (texts.map (inOrder backward)))
    | junction, _ => do rest.gather backward (← first.gather backward junction)

/-- An expression. -/
def fragment (regex : Regex) (backward : Bool) : Assembly Fragment := do
  (← regex.gather backward .nothing).close

/-- Any bytes, which are passed over before a match. -/
def anyBytes : Assembly Fragment :=
  anyTimes do
    let last ← addState (.pass 0)
    let first ← addState (.bytes [⟨⟨0x00, 0xff⟩, last⟩])
    return ⟨first, last⟩

/-- The whole automaton of an expression, by the number of the state in which a match begins. -/
def assemble (regex : Regex) (backward : Bool) : Assembly Nat := do
  let anchored := if backward then regex.isAtEnd else regex.isAtStart
  let lead ← if anchored then single (.pass 0) else anyBytes
  let whole ← (if backward then regex else .group 0 regex).fragment backward
  let accept ← addState .accept
  connect whole.last accept
  connect lead.last whole.first
  return whole.first

/-- The automaton of an expression, unless it is too large. -/
def automaton? (regex : Regex) : Option Automaton := do
  let (start, draft) ← (regex.assemble false).run ⟨#[], 0⟩
  let _ ← (regex.assemble true).run ⟨#[], 0⟩
  return ⟨draft.states, start, draft.weight⟩

end Regex

end SheetQuery.Pattern
