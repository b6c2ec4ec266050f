import SheetQuery.Pattern.Automaton

/-!
# Searching a text

An automaton is run on a text in all ways at once: between any two bytes it is in a set of states. A match can begin before
every character, and the search ends as soon as the accepting state is reached. There is no preference among matches, as
only their existence is asked for.
-/

namespace SheetQuery.Pattern

/-- Where a search stands. -/
structure Front where
  /-- For each state, when it was last reached. -/
  reached : Array Nat
  /-- How often the search has moved on. -/
  now : Nat
  /-- The states that wait for a byte. -/
  waiting : List Nat
  found : Bool

/-- The characters around a position, if it is one between characters. -/
structure Place where
  before : Option Char
  after : Option Char

/-- Whether a condition holds at a place; between the bytes of a character none does. -/
def Place.meets (place : Option Place) (condition : Look) (ascii : Bool) : Bool :=
  match place with
  | some place => condition.holds ascii place.before place.after
  | none => false

namespace Automaton

/-- Reaches states, and those that follow from them without a byte, as long as there is fuel. -/
def reach (automaton : Automaton) (place : Option Place) : Nat → List Nat → Front → Front
  | 0, _, front => front
  | _ + 1, [], front => front
  | fuel + 1, number :: others, front =>
    if front.reached[number]? == some front.now then automaton.reach place fuel others front
    else
      let front := { front with reached := front.reached.setIfInBounds number front.now }
      match automaton.states[number]? with
      | some (.pass next) => automaton.reach place fuel (next :: others) front
      | some (.look condition ascii next) =>
        automaton.reach place fuel (if Place.meets place condition ascii then next :: others else others) front
      | some (.split targets) => automaton.reach place fuel (targets.foldr List.cons others) front
      | some .accept => { front with found := true }
      | some _ => automaton.reach place fuel others { front with waiting := number :: front.waiting }
      | none => automaton.reach place fuel others front

/-- The state that a byte leads to. -/
def follow (automaton : Automaton) (b : UInt8) (number : Nat) : Option Nat :=
  match automaton.states[number]? with
  | some (.byte edge) => if edge.range.holds b then some edge.next else none
  | some (.bytes edges) => (edges.find? fun edge => edge.range.holds b).map Edge.next
  | _ => none

/-- The search moved on to some states. No state is reached by more ways than the automaton is heavy. -/
def moveTo (automaton : Automaton) (place : Option Place) (numbers : List Nat) (front : Front) : Front :=
  automaton.reach place (automaton.weight + numbers.length + 1) numbers
    { front with now := front.now + 1, waiting := [] }

/-- The states that follow over the bytes of a character; the last are yet to be reached. -/
def overBytes (automaton : Automaton) : List UInt8 → Front → List Nat × Front
  | [], front => ([], front)
  | [b], front => (front.waiting.filterMap (automaton.follow b), front)
  | b :: bytes, front =>
    automaton.overBytes bytes (automaton.moveTo none (front.waiting.filterMap (automaton.follow b)) front)

/-- Whether there is a match that has begun, or begins at a later character. -/
def findsFrom (automaton : Automaton) (before : Option Char) (numbers : List Nat) : List Char → Front → Bool
  | [], front => (automaton.moveTo (some ⟨before, none⟩) (automaton.start :: numbers) front).found
  | c :: text, front =>
    let front := automaton.moveTo (some ⟨before, some c⟩) (automaton.start :: numbers) front
    if front.found then true
    else
      let (numbers, front) := automaton.overBytes (String.utf8EncodeChar c) front
      automaton.findsFrom (some c) numbers text front

/-- Whether a text contains a match. -/
def isFound (automaton : Automaton) (text : String) : Bool :=
  automaton.findsFrom none [] text.toList ⟨Array.replicate automaton.states.size 0, 0, [], false⟩

end Automaton

end SheetQuery.Pattern
