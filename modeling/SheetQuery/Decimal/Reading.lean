import SheetQuery.Decimal.Shortest
import SheetQuery.Decimal.Width

/-!
# Reading numbers

Integers of a width, and decimals with an optional exponent, rounded to the nearest number of a format.
-/

namespace SheetQuery.Decimal

/-- Why a text is not an integer of a width. -/
inductive IntegerError where
  | empty
  | invalidDigit
  | tooLarge
  | tooSmall
  deriving Repr, DecidableEq

/-- The wording of a fault. -/
def IntegerError.message : IntegerError → String
  | .empty => "cannot parse integer from empty string"
  | .invalidDigit => "invalid digit found in string"
  | .tooLarge => "number too large to fit in target type"
  | .tooSmall => "number too small to fit in target type"

/-- The value of a decimal digit of the ASCII set. -/
def digitValue? (c : Char) : Option Nat :=
  if c.isDigit then some (c.toNat - '0'.toNat) else none

/-- Continues a number that stands at `value` with further digits, none of which may lead past `bound`. Of two faults
the one further to the left is told. -/
def readDigits (bound : Nat) (past : IntegerError) (value : Nat) : List Char → Except IntegerError Nat
  | [] => .ok value
  | c :: rest =>
    match digitValue? c with
    | none => .error .invalidDigit
    | some d =>
      let next := value * 10 + d
      if bound < next then .error past else readDigits bound past next rest

/-- Reads an integer of a width: digits after an optional sign. A width without a sign admits no minus sign. -/
def readInteger (width : IntWidth) (text : List Char) : Except IntegerError Int :=
  match text with
  | [] => .error .empty
  | ['+'] | ['-'] => .error .invalidDigit
  | '+' :: digits => Int.ofNat <$> readDigits width.greatest.toNat .tooLarge 0 digits
  | '-' :: digits =>
    if width.signed then (fun n => -(n : Int)) <$> readDigits (-width.least).toNat .tooSmall 0 digits
    else .error .invalidDigit
  | digits => Int.ofNat <$> readDigits width.greatest.toNat .tooLarge 0 digits

/-- Why a text is not a decimal number. -/
inductive DecimalError where
  | empty
  | invalid
  deriving Repr, DecidableEq

/-- The wording of a fault. -/
def DecimalError.message : DecimalError → String
  | .empty => "cannot parse float from empty string"
  | .invalid => "invalid float literal"

/-- What a text says about a number, before any rounding. -/
inductive Numeral where
  | nan
  | infinite (negative : Bool)
  | decimal (negative : Bool) (value : Scaled)
  deriving Repr, DecidableEq

/-- The number that a list of digits denotes. -/
def natOfDigits (digits : List Char) : Nat :=
  digits.foldl (fun n c => n * 10 + (c.toNat - '0'.toNat)) 0

/-- The exponent part of a decimal: nothing, or a mark, an optional sign and digits. -/
def readExponent : List Char → Option Int
  | [] => some 0
  | e :: rest =>
    if e = 'e' ∨ e = 'E' then
      let (negative, digits) := match rest with
        | '-' :: digits => (true, digits)
        | '+' :: digits => (false, digits)
        | digits => (false, digits)
      if digits.isEmpty || !digits.all Char.isDigit then none
      else some (if negative then -(natOfDigits digits : Int) else natOfDigits digits)
    else none

/-- An unsigned decimal: digits with at most one point among or beside them, then the exponent part. -/
def readScaled (text : List Char) : Option Scaled :=
  let whole := text.takeWhile Char.isDigit
  let afterWhole := text.dropWhile Char.isDigit
  let (fraction, rest) := match afterWhole with
    | '.' :: tail => (tail.takeWhile Char.isDigit, tail.dropWhile Char.isDigit)
    | other => ([], other)
  if whole.isEmpty && fraction.isEmpty then none
  else (readExponent rest).map fun exponent => ⟨natOfDigits (whole ++ fraction), exponent - fraction.length⟩

/-- A text in the lower case of the ASCII letters. -/
def lowerAscii (text : List Char) : List Char :=
  text.map Char.toLower

/-- Reads a decimal number, or one of the words for what is not finite, in any case of letters. -/
def readNumeral (text : List Char) : Except DecimalError Numeral :=
  if text.isEmpty then .error .empty
  else
    let (negative, body) := match text with
      | '-' :: body => (true, body)
      | '+' :: body => (false, body)
      | body => (false, body)
    match readScaled body with
    | some value => .ok (.decimal negative value)
    | none =>
      let word := lowerAscii body
      if word = "nan".toList then .ok .nan
      else if word = "inf".toList || word = "infinity".toList then .ok (.infinite negative)
      else .error .invalid

/-- Past this power of ten, in either direction, every format has only infinity or zero. -/
def decimalReach : Nat := 400

/-- The number of a format that is nearest to a decimal. -/
def Scaled.nearest (f : FloatFormat) (negative : Bool) (d : Scaled) : Binary f :=
  if d.coefficient = 0 then Binary.nearest f negative 0 1
  else if 0 ≤ d.exponent then
    if decimalReach < d.exponent then .infinite negative
    else Binary.nearest f negative (d.coefficient * tenTo d.exponent.toNat) 1
  else if decimalLength d.coefficient + d.exponent < -decimalReach then Binary.nearest f negative 0 1
  else Binary.nearest f negative d.coefficient (tenTo (-d.exponent).toNat)

/-- The number of a format that is nearest to what a text says. -/
def Numeral.nearest (f : FloatFormat) : Numeral → Binary f
  | .nan => .nan
  | .infinite negative => .infinite negative
  | .decimal negative value => value.nearest f negative

/-- Reads a number of a format. -/
def readBinary (f : FloatFormat) (text : List Char) : Except DecimalError (Binary f) :=
  Numeral.nearest f <$> readNumeral text

end SheetQuery.Decimal
