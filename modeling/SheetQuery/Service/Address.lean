import SheetQuery.Decimal.Reading
import SheetQuery.Json.Source

/-!
# Addresses

The address that a service listens at: four numbers between points, or groups of digits in base sixteen between colons in
brackets, and the number of a port. In the second form one run of zero groups can be left out, the last two groups can be
written as four numbers, and a scope can follow.
-/

namespace SheetQuery.Service

open Decimal

/-- An address and a port. -/
inductive SocketAddress where
  | four (parts : List Nat) (port : Nat)
  | six (groups : List Nat) (scope port : Nat)
  deriving Repr, DecidableEq

namespace SocketAddress

/-- The value of a digit in a base of ten or sixteen. -/
def digit? (base : Nat) (c : Char) : Option Nat :=
  (Json.hexValue? c).bind fun n => if n < base then some n else none

/-- A number at the front of a text, below a bound. Zeros before other digits may be forbidden, and the number of digits
limited. -/
def readNumber (base bound : Nat) (most : Option Nat) (zeros : Bool) (text : List Char) : Option (Nat × List Char) :=
  let digits := text.takeWhile fun c => (digit? base c).isSome
  let value := digits.foldl (fun n c => n * base + (digit? base c).getD 0) 0
  let tooMany := match most with
    | some most => most < digits.length
    | none => false
  if digits.isEmpty || tooMany || (!zeros && digits.head? == some '0' && digits.length != 1) || bound ≤ value then none
  else some (value, text.dropWhile fun c => (digit? base c).isSome)

/-- What follows a character at the front of a text. -/
def afterChar? (expected : Char) : List Char → Option (List Char)
  | c :: rest => if c = expected then some rest else none
  | [] => none

/-- One of the four numbers between points. -/
def readPart (text : List Char) : Option (Nat × List Char) :=
  readNumber 10 256 (some 3) false text

/-- Four numbers between points. -/
def readFour (text : List Char) : Option (List Nat × List Char) := do
  let (a, rest) ← readPart text
  let (b, rest) ← readPart (← afterChar? '.' rest)
  let (c, rest) ← readPart (← afterChar? '.' rest)
  let (d, rest) ← readPart (← afterChar? '.' rest)
  return ([a, b, c, d], rest)

/-- The two groups that four numbers make. -/
def groupsOfFour : List Nat → List Nat
  | [a, b, c, d] => [a * 256 + b, c * 256 + d]
  | other => other

/-- What follows a colon, which only the first group has none before it. -/
def afterSeparator? (first : Bool) (text : List Char) : Option (List Char) :=
  if first then some text else afterChar? ':' text

/-- At most so many groups between colons, and whether the last two were written as four numbers. -/
def readGroups (first : Bool) : Nat → List Char → List Nat × Bool × List Char
  | 0, text => ([], false, text)
  | limit + 1, text =>
    let four := if limit = 0 then none else (afterSeparator? first text).bind readFour
    match four with
    | some (parts, rest) => (groupsOfFour parts, true, rest)
    | none =>
      match (afterSeparator? first text).bind (readNumber 16 65536 (some 4) true) with
      | some (group, rest) =>
        let (groups, endsInFour, rest) := readGroups false limit rest
        (group :: groups, endsInFour, rest)
      | none => ([], false, text)

/-- Eight groups, or fewer with two colons in the place of those that are zero. -/
def readSix (text : List Char) : Option (List Nat × List Char) :=
  match readGroups true 8 text with
  | (front, endsInFour, rest) =>
    if front.length = 8 then some (front, rest)
    else if endsInFour then none
    else do
      let rest ← afterChar? ':' (← afterChar? ':' rest)
      let (back, _, rest) := readGroups true (7 - front.length) rest
      return (front ++ List.replicate (8 - front.length - back.length) 0 ++ back, rest)

/-- The scope of an address, zero if there is none. -/
def readScope (text : List Char) : Option (Nat × List Char) :=
  match text with
  | '%' :: rest => readNumber 10 4294967296 none true rest
  | _ => some (0, text)

/-- The port behind a colon. -/
def readPort (text : List Char) : Option (Nat × List Char) := do
  readNumber 10 65536 none true (← afterChar? ':' text)

/-- An address of four numbers and a port. -/
def readFourPort (text : List Char) : Option (SocketAddress × List Char) := do
  let (parts, rest) ← readFour text
  let (port, rest) ← readPort rest
  return (.four parts port, rest)

/-- An address of groups in brackets and a port. -/
def readSixPort (text : List Char) : Option (SocketAddress × List Char) := do
  let (groups, rest) ← readSix (← afterChar? '[' text)
  let (scope, rest) ← readScope rest
  let (port, rest) ← readPort (← afterChar? ']' rest)
  return (.six groups scope port, rest)

/-- The address that a text is. -/
def read? (text : String) : Option SocketAddress :=
  match (readFourPort text.toList).orElse fun _ => readSixPort text.toList with
  | some (address, []) => some address
  | _ => none

/-- What is said of a text that is no address. -/
def problem : String := "invalid socket address syntax"

end SocketAddress

end SheetQuery.Service
