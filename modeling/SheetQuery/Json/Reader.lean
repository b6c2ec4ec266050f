import SheetQuery.Json.Basic
import SheetQuery.Json.Source

/-!
# Reading JSON

What a JSON text means. Surrogates must come in pairs, numbers must not be past the range of 64-bit floating point, and
no value may be too deep. A key that comes again keeps the place of its first occurrence and takes the last value.
-/

namespace SheetQuery.Json

open Decimal

/-- The number that four digits in base sixteen denote. -/
def hexQuad? (a b c d : Char) : Option Nat := do
  return (((← hexValue? a) * 16 + (← hexValue? b)) * 16 + (← hexValue? c)) * 16 + (← hexValue? d)

/-- Whether a unit of sixteen bits is the first of a surrogate pair. -/
def isHighSurrogate (unit : Nat) : Bool :=
  0xd800 ≤ unit && unit ≤ 0xdbff

/-- Whether a unit of sixteen bits is the second of a surrogate pair. -/
def isLowSurrogate (unit : Nat) : Bool :=
  0xdc00 ≤ unit && unit ≤ 0xdfff

/-- The characters that a text as written stands for, unless a surrogate has no partner. -/
def unescape? : List Char → Option (List Char)
  | [] => some []
  | '\\' :: 'u' :: a :: b :: c :: d :: rest => do
    let unit ← hexQuad? a b c d
    if isLowSurrogate unit then none
    else if isHighSurrogate unit then
      match rest with
      | '\\' :: 'u' :: e :: f :: g :: h :: rest => do
        let low ← hexQuad? e f g h
        if isLowSurrogate low then
          return Char.ofNat (0x10000 + (unit - 0xd800) * 0x400 + (low - 0xdc00)) :: (← unescape? rest)
        else none
      | _ => none
    else return Char.ofNat unit :: (← unescape? rest)
  | '\\' :: e :: rest => do return (← shortEscape? e) :: (← unescape? rest)
  | c :: rest => do return c :: (← unescape? rest)

/-- A number with a point or an exponent, or an integer too long for 64 bits. -/
def roundedNumber? (negative : Bool) (value : Scaled) : Option Number :=
  match value.nearest .double negative with
  | .finite x => some (.float x)
  | _ => none

/-- The number that a literal denotes. A zero with a minus sign is not an integer, as integers have no such zero. -/
def Literal.number? (literal : Literal) : Option Number :=
  match literal.fraction, literal.exponent with
  | none, none =>
    let magnitude := natOfDigits literal.whole
    let value : Int := if literal.negative then -(magnitude : Int) else magnitude
    if h : FitsInteger value ∧ ¬ (literal.negative ∧ magnitude = 0) then some (.int value h.1)
    else roundedNumber? literal.negative ⟨magnitude, 0⟩
  | fraction, exponent =>
    let behind := fraction.getD []
    roundedNumber? literal.negative ⟨natOfDigits (literal.whole ++ behind), exponent.getD 0 - behind.length⟩

mutual

/-- The value that is written, if it is at most so many levels deep. -/
def ofSource? (depth : Nat) : Source → Option Json
  | .null => some .null
  | .bool b => some (.bool b)
  | .num literal => do return .num (← (← literal? literal).number?)
  | .str literal => (unescape? literal).map fun cs => .str (String.ofList cs)
  | .arr items =>
    match depth with
    | 0 => none
    | depth + 1 => (ofItems? depth items).map .arr
  | .obj members =>
    match depth with
    | 0 => none
    | depth + 1 => (ofMembers? depth members).map fun members => .obj (Members.ofList members)

/-- The items that are written. -/
def ofItems? (depth : Nat) : List Source → Option (List Json)
  | [] => some []
  | item :: items => do return (← ofSource? depth item) :: (← ofItems? depth items)

/-- The members that are written. -/
def ofMembers? (depth : Nat) : List (List Char × Source) → Option (List (String × Json))
  | [] => some []
  | (key, value) :: members => do
    return (String.ofList (← unescape? key), ← ofSource? depth value) :: (← ofMembers? depth members)

end

/-- No value is deeper than this. -/
def depthLimit : Nat := 127

/-- The value that a text stands for. -/
def read? (text : String) : Option Json :=
  (Source.read? text).bind (ofSource? depthLimit)

end SheetQuery.Json
