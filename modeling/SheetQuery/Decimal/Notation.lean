import SheetQuery.Decimal.Shortest

/-!
# Writing numbers

A number is written with the digits of its shortest decimal. A style fixes the rest: from which exponents on an exponent
is written, whether a whole number keeps a point, where a tie goes, and the words for what is not finite.
-/

namespace SheetQuery.Decimal

/-- How numbers are written. -/
structure Style where
  /-- Leading exponents that are written without an exponent; `none` is all of them. -/
  positional : Option (Int × Int)
  /-- Whether a whole number written without an exponent ends in `.0`. -/
  keepPoint : Bool
  tie : Tie
  deriving Repr, DecidableEq

/-- The digits of a decimal without the zeros at their end, and the place of the point counted from their beginning. -/
def significant (d : Scaled) : List Char × Int :=
  let digits := Nat.toDigits 10 d.coefficient
  let kept := (digits.reverse.dropWhile (· == '0')).reverse
  (kept, (digits.length : Int) + d.exponent)

/-- Digits with the point after the first `point` of them, and zeros where digits are lacking. -/
def positionalDigits (keepPoint : Bool) (digits : List Char) (point : Int) : List Char :=
  if point ≤ 0 then "0.".toList ++ List.replicate (-point).toNat '0' ++ digits
  else if digits.length ≤ point.toNat then
    digits ++ List.replicate (point.toNat - digits.length) '0' ++ (if keepPoint then ".0".toList else [])
  else digits.take point.toNat ++ ['.'] ++ digits.drop point.toNat

/-- Digits with the point after the first of them, and the exponent with its sign. -/
def scientificDigits (digits : List Char) (exponent : Int) : List Char :=
  let mantissa := match digits with
    | [] => []
    | [d] => [d]
    | d :: rest => d :: '.' :: rest
  let sign := if exponent < 0 then '-' else '+'
  mantissa ++ ['e', sign] ++ Nat.toDigits 10 exponent.natAbs

/-- The text of a decimal. -/
def Style.digits (style : Style) (d : Scaled) : List Char :=
  if d.coefficient = 0 then if style.keepPoint then "0.0".toList else ['0']
  else
    let (digits, point) := significant d
    let inRange := match style.positional with
      | none => true
      | some (least, greatest) => least ≤ point - 1 && point - 1 ≤ greatest
    if inRange then positionalDigits style.keepPoint digits point else scientificDigits digits (point - 1)

/-- The text of a finite number. -/
def Style.finite (style : Style) {f : FloatFormat} (x : Finite f) : List Char :=
  (if x.negative then ['-'] else []) ++ style.digits (shortest f style.tie x.rank)

/-- The text of any number. -/
def Style.text (style : Style) {f : FloatFormat} : Binary f → String
  | .nan => "NaN"
  | .infinite true => "-inf"
  | .infinite false => "inf"
  | .finite x => String.ofList (style.finite x)

end SheetQuery.Decimal
