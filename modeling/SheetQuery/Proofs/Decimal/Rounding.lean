import SheetQuery.Decimal.Binary

/-!
# Rounding keeps the order

The quotient that is rounded to the nearest whole number never rounds below a whole number that it has reached, and that is
all there is to it within a binade. Across binades the ranks of the lower one end where those of the higher one begin. So the
rank of the nearest magnitude grows with the quotient.
-/

namespace SheetQuery.Decimal

namespace FloatFormat

/-! ## Whole numbers -/

/-- A quotient rounds to its whole part or to the next whole number. -/
theorem roundHalfEven_bounds (num den : Nat) :
    num / den ≤ roundHalfEven num den ∧ roundHalfEven num den ≤ num / den + 1 := by
  simp only [roundHalfEven]
  split
  · omega
  · split <;> omega

/-- A whole number rounds to itself. -/
theorem roundHalfEven_mul {den : Nat} (h : 0 < den) (k : Nat) : roundHalfEven (k * den) den = k := by
  simp only [roundHalfEven, Nat.mul_mod_left, Nat.mul_div_cancel k h]
  rw [if_pos (by omega)]

/-- A greater quotient does not round to less. -/
theorem roundHalfEven_mono {num num' : Nat} (h : num ≤ num') (den : Nat) :
    roundHalfEven num den ≤ roundHalfEven num' den := by
  have hquot : num / den ≤ num' / den := Nat.div_le_div_right h
  rcases Nat.lt_or_eq_of_le hquot with hlt | heq
  · have hlow := (roundHalfEven_bounds num den).2
    have hhigh := (roundHalfEven_bounds num' den).1
    omega
  · have hrest : num % den ≤ num' % den := by
      have h1 := Nat.div_add_mod num den
      have h2 := Nat.div_add_mod num' den
      rw [← heq] at h2
      omega
    simp only [roundHalfEven, ← heq]
    split
    · split
      · exact Nat.le_refl _
      · split <;> omega
    · split
      · exact Nat.le_of_eq (by rw [if_neg (by omega), if_pos (by omega)])
      · rw [if_neg (by omega)]
        split <;> omega

/-! ## Ranks -/

/-- How many binades a magnitude lies above the first one, if it does. -/
def binadeShift (f : FloatFormat) (num den : Nat) : Nat :=
  (num * twoTo f.unitExponent / den).log2 - f.fractionBits

/-- The rank of a magnitude within its binade. -/
theorem nearestRank_eq (f : FloatFormat) (num den : Nat) :
    f.nearestRank num den = f.binadeShift num den * twoTo f.fractionBits +
      roundHalfEven (num * twoTo f.unitExponent) (den * twoTo (f.binadeShift num den)) :=
  rfl

theorem log2_mono {a b : Nat} (h : a ≤ b) : a.log2 ≤ b.log2 := by
  by_cases ha : a = 0
  · rw [ha]
    exact Nat.zero_le _
  · have hpow : 2 ^ a.log2 ≤ b := Nat.le_trans (Nat.log2_self_le ha) h
    exact (Nat.le_log2 (by omega)).2 hpow

/-- A magnitude rounds at most to the end of its binade. -/
theorem roundHalfEven_le_end (f : FloatFormat) (num : Nat) {den : Nat} (h : 0 < den) :
    roundHalfEven (num * twoTo f.unitExponent) (den * twoTo (f.binadeShift num den)) ≤ 2 * twoTo f.fractionBits := by
  have hpos : 0 < den * twoTo (f.binadeShift num den) := Nat.mul_pos h (twoTo_pos _)
  have hlog : num * twoTo f.unitExponent / den < 2 ^ ((num * twoTo f.unitExponent / den).log2 + 1) := Nat.lt_log2_self
  have hle : (num * twoTo f.unitExponent / den).log2 + 1 ≤ f.binadeShift num den + f.fractionBits + 1 := by
    rw [binadeShift]
    omega
  have hpow := Nat.lt_of_lt_of_le hlog (Nat.pow_le_pow_right (by decide) hle)
  have hbound : num * twoTo f.unitExponent ≤
      2 * twoTo f.fractionBits * (den * twoTo (f.binadeShift num den)) := by
    have hnum := (Nat.div_lt_iff_lt_mul h).1 hpow
    have heq : 2 ^ (f.binadeShift num den + f.fractionBits + 1) * den =
        2 * twoTo f.fractionBits * (den * twoTo (f.binadeShift num den)) := by
      rw [Nat.pow_succ, Nat.pow_add]
      simp only [twoTo, Nat.pow_eq]
      ac_rfl
    omega
  have hround := roundHalfEven_mono hbound (den * twoTo (f.binadeShift num den))
  rwa [roundHalfEven_mul hpos] at hround

/-- A magnitude above the first binade rounds at least to the beginning of its binade. -/
theorem le_roundHalfEven (f : FloatFormat) (num : Nat) {den : Nat} (h : 0 < den) (hs : 0 < f.binadeShift num den) :
    twoTo f.fractionBits ≤ roundHalfEven (num * twoTo f.unitExponent) (den * twoTo (f.binadeShift num den)) := by
  have hpos : 0 < den * twoTo (f.binadeShift num den) := Nat.mul_pos h (twoTo_pos _)
  have hlog : (num * twoTo f.unitExponent / den).log2 = f.binadeShift num den + f.fractionBits := by
    rw [binadeShift] at hs ⊢
    omega
  have hne : num * twoTo f.unitExponent / den ≠ 0 := by
    intro hzero
    rw [hzero] at hlog
    have hlog0 : Nat.log2 0 = 0 := by decide
    omega
  have hself := Nat.log2_self_le hne
  rw [hlog] at hself
  have hbound : twoTo f.fractionBits * (den * twoTo (f.binadeShift num den)) ≤ num * twoTo f.unitExponent := by
    have hnum := (Nat.le_div_iff_mul_le h).1 hself
    have heq : 2 ^ (f.binadeShift num den + f.fractionBits) * den =
        twoTo f.fractionBits * (den * twoTo (f.binadeShift num den)) := by
      rw [Nat.pow_add]
      simp only [twoTo, Nat.pow_eq]
      ac_rfl
    omega
  have hround := roundHalfEven_mono hbound (den * twoTo (f.binadeShift num den))
  rwa [roundHalfEven_mul hpos] at hround

/-- The rank of the nearest magnitude grows with the magnitude. -/
theorem nearestRank_mono (f : FloatFormat) {num num' den : Nat} (hd : 0 < den) (h : num ≤ num') :
    f.nearestRank num den ≤ f.nearestRank num' den := by
  have hscaled : num * twoTo f.unitExponent ≤ num' * twoTo f.unitExponent := Nat.mul_le_mul_right _ h
  have hshift : f.binadeShift num den ≤ f.binadeShift num' den :=
    Nat.sub_le_sub_right (log2_mono (Nat.div_le_div_right hscaled)) _
  rw [nearestRank_eq, nearestRank_eq]
  rcases Nat.lt_or_eq_of_le hshift with hlt | heq
  · have hend := roundHalfEven_le_end f num hd
    have hbegin := le_roundHalfEven f num' hd (by omega)
    have hbinades : (f.binadeShift num den + 1) * twoTo f.fractionBits ≤
        f.binadeShift num' den * twoTo f.fractionBits := Nat.mul_le_mul_right _ hlt
    rw [Nat.succ_mul] at hbinades
    omega
  · rw [heq]
    exact Nat.add_le_add_left (roundHalfEven_mono hscaled _) _

end FloatFormat

end SheetQuery.Decimal
