import SheetQuery.Decimal.Notation
import SheetQuery.Json.Basic

/-!
# JSON text

The compact form has no spaces; the indented form has one member or item a line, two spaces deeper at each level. Texts
are escaped only where they must be.
-/

namespace SheetQuery.Json

open Decimal

/-- Floating-point numbers keep a point, and have an exponent below `1e-5` and from `1e+16` on; a tie goes to the even
digit. -/
def numberStyle : Style :=
  ⟨some (-5, 15), true, .even⟩

/-- The text of a number. -/
def numberText : Number → List Char
  | .int i _ => (toString i).toList
  | .float x => numberStyle.finite x

/-- A digit in base sixteen, in lower case. -/
def hexDigit (n : Nat) : Char :=
  Nat.digitChar (n % 16)

/-- One character of a text between quotation marks. -/
def escapedChar (c : Char) : List Char :=
  if c = '"' then ['\\', '"']
  else if c = '\\' then ['\\', '\\']
  else if c.toNat = 0x08 then ['\\', 'b']
  else if c.toNat = 0x09 then ['\\', 't']
  else if c.toNat = 0x0a then ['\\', 'n']
  else if c.toNat = 0x0c then ['\\', 'f']
  else if c.toNat = 0x0d then ['\\', 'r']
  else if c.toNat < 0x20 then ['\\', 'u', '0', '0', hexDigit (c.toNat / 16), hexDigit c.toNat]
  else [c]

/-- A text between quotation marks. -/
def stringText (s : String) : List Char :=
  '"' :: s.toList.flatMap escapedChar ++ ['"']

mutual

/-- The compact text of a value. -/
def compactChars : Json → List Char
  | .null => "null".toList
  | .bool b => (if b then "true" else "false").toList
  | .num n => numberText n
  | .str s => stringText s
  | .arr items => '[' :: compactItems items ++ [']']
  | .obj members => '\x7b' :: compactMembers members ++ ['\x7d']

/-- The compact texts of items, with commas between them. -/
def compactItems : List Json → List Char
  | [] => []
  | [item] => compactChars item
  | item :: items => compactChars item ++ ',' :: compactItems items

/-- The compact texts of members, with commas between them. -/
def compactMembers : List (String × Json) → List Char
  | [] => []
  | [(key, value)] => stringText key ++ ':' :: compactChars value
  | (key, value) :: members => stringText key ++ ':' :: compactChars value ++ ',' :: compactMembers members

end

/-- The compact text of a value. -/
def compact (value : Json) : String :=
  String.ofList (compactChars value)

/-- The beginning of a line at a depth. -/
def lineStart (depth : Nat) : List Char :=
  '\n' :: List.replicate (2 * depth) ' '

mutual

/-- The indented text of a value that stands at a depth. -/
def indentedChars (depth : Nat) : Json → List Char
  | .arr [] => ['[', ']']
  | .arr (item :: items) => '[' :: indentedItems (depth + 1) (item :: items) ++ lineStart depth ++ [']']
  | .obj [] => ['\x7b', '\x7d']
  | .obj (member :: members) =>
    '\x7b' :: indentedMembers (depth + 1) (member :: members) ++ lineStart depth ++ ['\x7d']
  | .null => compactChars .null
  | .bool b => compactChars (.bool b)
  | .num n => compactChars (.num n)
  | .str s => compactChars (.str s)

/-- The indented texts of items, each on a line of its own. -/
def indentedItems (depth : Nat) : List Json → List Char
  | [] => []
  | [item] => lineStart depth ++ indentedChars depth item
  | item :: items => lineStart depth ++ indentedChars depth item ++ ',' :: indentedItems depth items

/-- The indented texts of members, each on a line of its own. -/
def indentedMembers (depth : Nat) : List (String × Json) → List Char
  | [] => []
  | [(key, value)] => lineStart depth ++ stringText key ++ ':' :: ' ' :: indentedChars depth value
  | (key, value) :: members =>
    lineStart depth ++ stringText key ++ ':' :: ' ' :: indentedChars depth value ++ ',' :: indentedMembers depth members

end

/-- The indented text of a value. -/
def indented (value : Json) : String :=
  String.ofList (indentedChars 0 value)

end SheetQuery.Json
