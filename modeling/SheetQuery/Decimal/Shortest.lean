import SheetQuery.Decimal.Binary

/-!
# Shortest decimals

The decimal with the fewest digits among those that read back as a given binary number, and of several such decimals
the one nearest to it. The reals that read back as a number form an interval, bounded by the midpoints to its two
neighbours; the midpoints belong to it when the rank is even. A grid of decimals meets the interval exactly when one of
the two grid points next to the number lies in it.
-/

namespace SheetQuery.Decimal

/-- The number `coefficient * 10 ^ exponent`. -/
structure Scaled where
  coefficient : Nat
  exponent : Int
  deriving Repr, DecidableEq

/-- Which of two equally near decimals is taken. -/
inductive Tie where
  | up
  | even
  deriving Repr, DecidableEq

/-- The number of decimal digits of a natural number. -/
def decimalLength (n : Nat) : Nat :=
  (Nat.toDigits 10 n).length

/-- The largest power of ten that is no greater than `num / den`, for positive numbers, as its exponent. -/
def leadingExponent (num den : Nat) : Int :=
  if den ≤ num then (decimalLength (num / den) : Int) - 1
  else
    let zeros := decimalLength den - decimalLength num
    if den ≤ num * tenTo zeros then -(zeros : Int) else -(zeros : Int) - 1

/-- The grid point next to the magnitude of a rank, on the grid of the powers of ten with the given exponent, that
rounds back to it, if there is one. -/
def gridPoint (f : FloatFormat) (rank : Nat) (tie : Tie) (grid : Int) : Option Scaled :=
  let down := tenTo grid.toNat * twoTo (f.unitExponent + 1)
  let up := tenTo (-grid).toNat
  let value := 2 * f.units rank * up
  let least := (f.units (rank - 1) + f.units rank) * up
  let greatest := (f.units rank + f.units (rank + 1)) * up
  let inside (c : Nat) : Bool :=
    if rank % 2 = 0 then least ≤ c * down && c * down ≤ greatest else least < c * down && c * down < greatest
  let below := value / down
  let twice := 2 * (value % down)
  let above := below + 1
  let takeAbove := down < twice || (twice == down && (tie == .up || below % 2 == 1))
  match inside below, inside above with
  | true, true => some ⟨if takeAbove then above else below, grid⟩
  | true, false => some ⟨below, grid⟩
  | false, true => some ⟨above, grid⟩
  | false, false => none

/-- So many decimal digits tell any two numbers of a format apart. -/
def FloatFormat.sufficientDigits (f : FloatFormat) : Nat :=
  (f.fractionBits + 1) * 30103 / 100000 + 2

/-- The shortest decimal that reads back as the magnitude of a rank: one digit is tried first, then two, and so on. -/
def shortest (f : FloatFormat) (tie : Tie) (rank : Nat) : Scaled :=
  if rank = 0 then ⟨0, 0⟩
  else
    let lead := leadingExponent (f.units rank) (twoTo f.unitExponent)
    let attempt (fewer : Nat) : Option Scaled := gridPoint f rank tie (lead - fewer)
    ((List.range f.sufficientDigits).findSome? attempt).getD ⟨0, 0⟩

end SheetQuery.Decimal
