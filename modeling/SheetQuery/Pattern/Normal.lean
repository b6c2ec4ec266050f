import SheetQuery.Pattern.Basic

/-!
# Expressions in normal form

Sequences, choices and repetitions are put together in one form: no sequence within a sequence, no choice within a choice,
neighbouring literals joined, single characters to choose from made a set, and what all members of a choice begin with
taken out of it. An expression means the same before and after; what changes is the size of its automaton.
-/

namespace SheetQuery.Pattern

namespace Regex

/-- The chain of parts that is a sequence. -/
def ofParts : List Regex → Regex
  | [] => .empty
  | [part] => part
  | part :: rest => .seq part (ofParts rest)

/-- The chain of members that is a choice; none of them cannot match. -/
def ofAlternatives : List Regex → Regex
  | [] => .set .none
  | [member] => member
  | member :: rest => .alt member (ofAlternatives rest)

/-- Literals that follow each other joined into one. -/
def joinLiterals (parts : List Regex) : List Regex :=
  parts.foldr (fun part later =>
    match part, later with
    | .literal text, .literal more :: later => .literal (text ++ more) :: later
    | part, later => part :: later) []

/-- Expressions one after the other. -/
def concat (members : List Regex) : Regex :=
  ofParts (joinLiterals (members.flatMap parts))

/-- The characters of a set; one that holds just one is a literal. -/
def ofSet (chars : CharSet) : Regex :=
  match chars.only? with
  | some c => .literal [c]
  | none => .set chars

/-- The character of a literal that has just one. -/
def char? : Regex → Option Char
  | .literal [c] => some c
  | _ => none

/-- The characters of a set. -/
def chars? : Regex → Option CharSet
  | .set chars => some chars
  | _ => none

/-- What two lists both begin with. -/
def commonStart : List Regex → List Regex → List Regex
  | a :: as, b :: bs => if a = b then a :: commonStart as bs else []
  | _, _ => []

/-- The parts that all members of a choice begin with, if all are sequences. -/
def sharedStart : List Regex → List Regex
  | .seq first rest :: members =>
    members.foldl (fun start member =>
      match member with
      | .seq first rest => commonStart start (Regex.seq first rest).parts
      | _ => []) (Regex.seq first rest).parts
  | _ => []

/-- A choice between expressions, which takes out what they begin with at most so many times, one time within the
other. -/
def choiceWithin : Nat → List Regex → Regex
  | 0, members => ofAlternatives (members.flatMap alternatives)
  | depth + 1, members =>
    match members.flatMap alternatives with
    | [] => .set .none
    | [member] => member
    | members =>
      match members.mapM char?, members.mapM chars? with
      | some chars, _ => ofSet (.ofIntervals (chars.map fun c => (c.toNat, c.toNat)))
      | _, some sets => ofSet (.ofIntervals (sets.flatMap CharSet.intervals))
      | none, none =>
        match sharedStart members with
        | [] => ofAlternatives members
        | start =>
          let rests := members.map fun member => concat (member.parts.drop start.length)
          concat (start ++ [choiceWithin depth rests])

/-- A choice between expressions. -/
def choice (members : List Regex) : Regex :=
  choiceWithin (members.foldl (fun total member => total + member.size) 1) members

/-- An expression repeated. One that takes no character need not be matched twice. -/
def times (body : Regex) (least : Nat) (most : Option Nat) (greedy : Bool) : Regex :=
  let (least, most) := if body.mostLength == some 0 then (min least 1, some (min (most.getD 1) 1)) else (least, most)
  if least = 0 && most == some 0 then .empty
  else if least = 1 && most == some 1 then body
  else .repeated body least most greedy

end Regex

end SheetQuery.Pattern
