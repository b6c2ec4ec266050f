import SheetQuery.Text.Extending
import SheetQuery.Text.Unprintable

/-!
# Quoted texts

A text between quotation marks, for messages: what cannot be seen, or would not stand alone, is written as an escape.
-/

namespace SheetQuery.Text

/-- The digits of a number in base sixteen, in lower case. -/
def hexDigits (n : Nat) : List Char :=
  Nat.toDigits 16 n

/-- One character of a quoted text. -/
def quotedChar (c : Char) : List Char :=
  if c = '\x00' then ['\\', '0']
  else if c = '\t' then ['\\', 't']
  else if c = '\r' then ['\\', 'r']
  else if c = '\n' then ['\\', 'n']
  else if c = '"' then ['\\', '"']
  else if c = '\\' then ['\\', '\\']
  else if (0x300 ≤ c.toNat && graphemeExtending.holds c) || unprintable.holds c then
    "\\u\x7b".toList ++ hexDigits c.toNat ++ ['\x7d']
  else [c]

/-- A text in quotation marks. -/
def quoted (s : String) : String :=
  String.ofList (['"'] ++ s.toList.flatMap quotedChar ++ ['"'])

end SheetQuery.Text
