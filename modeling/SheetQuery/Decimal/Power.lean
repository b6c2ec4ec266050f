/-!
# Powers of two and ten

The two bases of all exact arithmetic on numbers: binary formats count in powers of two, their texts in powers of ten.
-/

namespace SheetQuery.Decimal

/-- A power of two. -/
def twoTo (exponent : Nat) : Nat :=
  Nat.pow 2 exponent

/-- A power of ten. -/
def tenTo (exponent : Nat) : Nat :=
  Nat.pow 10 exponent

theorem twoTo_succ (n : Nat) : twoTo (n + 1) = 2 * twoTo n :=
  Nat.mul_comm (Nat.pow 2 n) 2

theorem twoTo_pos (n : Nat) : 0 < twoTo n :=
  Nat.pow_pos (by decide)

end SheetQuery.Decimal
