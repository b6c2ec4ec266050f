import SheetQuery.Decimal.Reading

/-!
# JSON as written

The structure of a JSON text before its parts are given a meaning: numbers and texts are kept as they are written, and
all members of an object are kept, however often a key comes. Nothing is forgiven in the form: no trailing commas and no
comments.
-/

namespace SheetQuery.Json

open Decimal

/-- A value as it is written. -/
inductive Source where
  | null
  | bool (value : Bool)
  | num (literal : List Char)
  /-- What stands between quotation marks. -/
  | str (literal : List Char)
  | arr (items : List Source)
  | obj (members : List (List Char × Source))

/-- The white space that may stand between tokens. -/
def isSpace (c : Char) : Bool :=
  c == ' ' || c == '\n' || c == '\t' || c == '\r'

/-- A text without the white space at its front. -/
def skipSpace (text : List Char) : List Char :=
  text.dropWhile isSpace

/-- The value of a digit in base sixteen. -/
def hexValue? (c : Char) : Option Nat :=
  if c.isDigit then some (c.toNat - '0'.toNat)
  else if 'a' ≤ c ∧ c ≤ 'f' then some (c.toNat - 'a'.toNat + 10)
  else if 'A' ≤ c ∧ c ≤ 'F' then some (c.toNat - 'A'.toNat + 10)
  else none

/-- The character of an escape that is one letter long. -/
def shortEscape? (c : Char) : Option Char :=
  if c = '"' then some '"'
  else if c = '\\' then some '\\'
  else if c = '/' then some '/'
  else if c = 'b' then some (Char.ofNat 0x08)
  else if c = 'f' then some (Char.ofNat 0x0c)
  else if c = 'n' then some '\n'
  else if c = 'r' then some '\r'
  else if c = 't' then some '\t'
  else none

/-- A text whose opening quotation mark has been read, up to its closing one, and what follows it. -/
def readLiteral : List Char → Option (List Char × List Char)
  | [] => none
  | '"' :: rest => some ([], rest)
  | '\\' :: 'u' :: a :: b :: c :: d :: rest =>
    if [a, b, c, d].all fun digit => (hexValue? digit).isSome then
      (readLiteral rest).map fun (literal, rest) => ('\\' :: 'u' :: a :: b :: c :: d :: literal, rest)
    else none
  | '\\' :: e :: rest =>
    if (shortEscape? e).isSome then
      (readLiteral rest).map fun (literal, rest) => ('\\' :: e :: literal, rest)
    else none
  | c :: rest =>
    if c.toNat < 0x20 || c = '\\' then none
    else (readLiteral rest).map fun (literal, rest) => (c :: literal, rest)

/-- Whether a character can stand in a number. -/
def isNumberChar (c : Char) : Bool :=
  c.isDigit || c == '+' || c == '-' || c == '.' || c == 'e' || c == 'E'

/-- Whether the digits before the point of a number are as they must be: at least one, and no zero before others. -/
def isWhole (digits : List Char) : Bool :=
  match digits with
  | [] => false
  | ['0'] => true
  | '0' :: _ => false
  | _ => true

/-- A number in its parts. -/
structure Literal where
  negative : Bool
  whole : List Char
  /-- The digits behind the point, if there is one. -/
  fraction : Option (List Char)
  /-- The exponent, if there is one. -/
  exponent : Option Int

/-- The exponent of a number, if what follows its digits is one or nothing at all. -/
def exponent? (text : List Char) : Option (Option Int) :=
  if text.isEmpty then some none else (readExponent text).map some

/-- The parts of a number. -/
def literal? (text : List Char) : Option Literal :=
  let (negative, body) := match text with
    | '-' :: body => (true, body)
    | body => (false, body)
  let whole := body.takeWhile Char.isDigit
  if !isWhole whole then none
  else
    match body.dropWhile Char.isDigit with
    | '.' :: rest =>
      let fraction := rest.takeWhile Char.isDigit
      if fraction.isEmpty then none
      else (exponent? (rest.dropWhile Char.isDigit)).map fun exponent => ⟨negative, whole, some fraction, exponent⟩
    | rest => (exponent? rest).map fun exponent => ⟨negative, whole, none, exponent⟩

/-- What follows a word at the front of a text, if the word is there. -/
def afterWord? : List Char → List Char → Option (List Char)
  | [], text => some text
  | _ :: _, [] => none
  | w :: word, c :: text => if w = c then afterWord? word text else none

namespace Source

mutual

/-- A value at the front of a text, and what follows it. -/
def readValue (fuel : Nat) (text : List Char) : Option (Source × List Char) :=
  match fuel with
  | 0 => none
  | fuel + 1 =>
    match skipSpace text with
    | [] => none
    | '"' :: rest => (readLiteral rest).map fun (literal, rest) => (.str literal, rest)
    | '[' :: rest =>
      match skipSpace rest with
      | ']' :: rest => some (.arr [], rest)
      | rest => (readItems fuel rest).map fun (items, rest) => (.arr items, rest)
    | '\x7b' :: rest =>
      match skipSpace rest with
      | '\x7d' :: rest => some (.obj [], rest)
      | rest => (readMembers fuel rest).map fun (members, rest) => (.obj members, rest)
    | 'n' :: rest => (afterWord? "ull".toList rest).map fun rest => (.null, rest)
    | 't' :: rest => (afterWord? "rue".toList rest).map fun rest => (.bool true, rest)
    | 'f' :: rest => (afterWord? "alse".toList rest).map fun rest => (.bool false, rest)
    | c :: rest =>
      let literal := (c :: rest).takeWhile isNumberChar
      if (literal? literal).isSome then some (.num literal, (c :: rest).dropWhile isNumberChar) else none

/-- The items of an array that is not empty, up to its closing bracket. -/
def readItems (fuel : Nat) (text : List Char) : Option (List Source × List Char) :=
  match fuel with
  | 0 => none
  | fuel + 1 => do
    let (item, rest) ← readValue fuel text
    match skipSpace rest with
    | ',' :: rest => do
      let (items, rest) ← readItems fuel rest
      return (item :: items, rest)
    | ']' :: rest => return ([item], rest)
    | _ => none

/-- The members of an object that is not empty, up to its closing brace. -/
def readMembers (fuel : Nat) (text : List Char) : Option (List (List Char × Source) × List Char) :=
  match fuel with
  | 0 => none
  | fuel + 1 =>
    match skipSpace text with
    | '"' :: rest => do
      let (key, rest) ← readLiteral rest
      match skipSpace rest with
      | ':' :: rest => do
        let (value, rest) ← readValue fuel rest
        match skipSpace rest with
        | ',' :: rest => do
          let (members, rest) ← readMembers fuel rest
          return ((key, value) :: members, rest)
        | '\x7d' :: rest => return ([(key, value)], rest)
        | _ => none
      | _ => none
    | _ => none

end

/-- The value that a text is, with nothing but white space around it. -/
def read? (text : String) : Option Source :=
  let chars := text.toList
  match readValue (2 * chars.length + 2) chars with
  | some (value, rest) => if (skipSpace rest).isEmpty then some value else none
  | none => none

end Source

end SheetQuery.Json
