import SheetQuery.Decimal.Power

/-!
# Binary floating point

The numbers a binary format can hold, given by their rank: the finite magnitudes of a format, from zero upward, are
numbered 0, 1, 2, … and the number of a magnitude is also its bit pattern. Every magnitude is a whole number of units,
a unit being the least positive magnitude, so comparison and rounding are exact arithmetic on natural numbers.
-/

namespace SheetQuery.Decimal

/-- A binary format: how many bits hold the fraction and how many the exponent. -/
structure FloatFormat where
  fractionBits : Nat
  exponentBits : Nat
  deriving Repr, DecidableEq

namespace FloatFormat

/-- The format of 64 bits. -/
def double : FloatFormat := ⟨52, 11⟩

/-- The format of 32 bits. -/
def single : FloatFormat := ⟨23, 8⟩

/-- A unit is two to minus this number. -/
def unitExponent (f : FloatFormat) : Nat :=
  twoTo (f.exponentBits - 1) - 2 + f.fractionBits

/-- The rank of infinity: every finite magnitude has a smaller one. -/
def infinityRank (f : FloatFormat) : Nat :=
  (twoTo f.exponentBits - 1) * twoTo f.fractionBits

/-- The magnitude of a rank in units. Within the first binade and below it consecutive magnitudes are one unit apart;
the distance doubles from each binade to the next. -/
def units (f : FloatFormat) (rank : Nat) : Nat :=
  let binade := rank / twoTo f.fractionBits
  let fraction := rank % twoTo f.fractionBits
  if binade = 0 then fraction else (twoTo f.fractionBits + fraction) * twoTo (binade - 1)

/-- The quotient rounded to the nearest whole number, a half going to the even neighbour. -/
def roundHalfEven (num den : Nat) : Nat :=
  let q := num / den
  let r := num % den
  if 2 * r < den then q else if den < 2 * r then q + 1 else q + q % 2

/-- The rank of the magnitude nearest to `num / den`, a tie going to the even rank. From `infinityRank` on the magnitude
is too large for the format. -/
def nearestRank (f : FloatFormat) (num den : Nat) : Nat :=
  let scaled := num * twoTo f.unitExponent
  let shift := (scaled / den).log2 - f.fractionBits
  shift * twoTo f.fractionBits + roundHalfEven scaled (den * twoTo shift)

end FloatFormat

/-- A finite number of a format: a sign, which zero has too, and the rank of the magnitude. -/
structure Finite (f : FloatFormat) where
  negative : Bool
  rank : Nat
  rank_lt : rank < f.infinityRank
  deriving Repr, DecidableEq

namespace Finite

variable {f : FloatFormat}

/-- The magnitude in units. -/
def units (x : Finite f) : Nat :=
  f.units x.rank

/-- The place of a number in the order of the finite numbers; the two zeros share a place. -/
def place (x : Finite f) : Int :=
  if x.negative then -(x.rank : Int) else x.rank

end Finite

/-- A number of a format, the infinities and the number that is none included. -/
inductive Binary (f : FloatFormat) where
  | nan
  | infinite (negative : Bool)
  | finite (x : Finite f)
  deriving Repr, DecidableEq

namespace Binary

variable {f : FloatFormat}

/-- The number with a sign and a rank; a rank past the finite ones stands for infinity. -/
def ofRank (negative : Bool) (rank : Nat) : Binary f :=
  if h : rank < f.infinityRank then .finite ⟨negative, rank, h⟩ else .infinite negative

/-- The number nearest to a signed quotient. -/
def nearest (f : FloatFormat) (negative : Bool) (num den : Nat) : Binary f :=
  ofRank negative (f.nearestRank num den)

/-- The same number in another format, or the nearest one that format has. -/
def convert (g : FloatFormat) : Binary f → Binary g
  | .nan => .nan
  | .infinite negative => .infinite negative
  | .finite x => nearest g x.negative x.units (twoTo f.unitExponent)

/-- The bit that tells the sign, as it counts in a bit pattern. -/
def signBit (f : FloatFormat) : Nat :=
  twoTo (f.fractionBits + f.exponentBits)

/-- The bit pattern of a number, if it is not the one that is none, for which there are many. -/
def toBits? : Binary f → Option Nat
  | .nan => none
  | .infinite negative => some ((if negative then signBit f else 0) + f.infinityRank)
  | .finite x => some ((if x.negative then signBit f else 0) + x.rank)

/-- The number a bit pattern stands for. -/
def ofBits (f : FloatFormat) (bits : Nat) : Binary f :=
  let sign := signBit f
  let magnitude := bits % sign
  if f.infinityRank < magnitude then .nan else ofRank (sign ≤ bits) magnitude

end Binary

/-- A number of 64 bits. -/
abbrev Double := Binary .double

/-- A number of 32 bits. -/
abbrev Single := Binary .single

end SheetQuery.Decimal
