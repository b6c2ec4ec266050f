import SheetQuery.Proofs.Decimal.Rounding

/-!
# Numbers in a wider format

A magnitude that a format holds is a number of digits at a place, written in one way only, and rounding gives the rank of just
these digits. The digits of a number of 32 bits find room in 64 bits at some place, so that the number comes back when it is
widened and narrowed again.
-/

namespace SheetQuery.Decimal

theorem twoTo_add (a b : Nat) : twoTo (a + b) = twoTo a * twoTo b :=
  Nat.pow_add 2 a b

theorem twoTo_mono {a b : Nat} (h : a ≤ b) : twoTo a ≤ twoTo b :=
  Nat.pow_le_pow_right (by decide) h

namespace FloatFormat

variable {f : FloatFormat} {digits place : Nat}

/-! ## Digits at a place -/

/-- Whether digits at a place are the way in which the format holds a magnitude: there is room for the digits, and none of
the room is left unless the place is the last one. -/
def Aligned (f : FloatFormat) (digits place : Nat) : Prop :=
  digits < 2 * twoTo f.fractionBits ∧ (place = 0 ∨ twoTo f.fractionBits ≤ digits)

/-- Every rank is one of digits at a place. -/
theorem exists_aligned (f : FloatFormat) (rank : Nat) :
    ∃ digits place, f.Aligned digits place ∧ rank = place * twoTo f.fractionBits + digits := by
  have hroom := twoTo_pos f.fractionBits
  by_cases hlow : rank < twoTo f.fractionBits
  · exact ⟨rank, 0, ⟨by omega, .inl rfl⟩, by omega⟩
  · have hrest := Nat.mod_lt rank hroom
    have hbinade : 0 < rank / twoTo f.fractionBits := Nat.div_pos (by omega) hroom
    have hrank := Nat.div_add_mod rank (twoTo f.fractionBits)
    refine ⟨twoTo f.fractionBits + rank % twoTo f.fractionBits, rank / twoTo f.fractionBits - 1,
      ⟨by omega, .inr (by omega)⟩, ?_⟩
    calc rank = twoTo f.fractionBits * (rank / twoTo f.fractionBits - 1 + 1) + rank % twoTo f.fractionBits := by
          rw [Nat.sub_add_cancel hbinade, hrank]
      _ = (rank / twoTo f.fractionBits - 1) * twoTo f.fractionBits +
          (twoTo f.fractionBits + rank % twoTo f.fractionBits) := by
          rw [Nat.mul_succ, Nat.mul_comm, Nat.add_assoc]

/-- The magnitude of the rank of digits at a place. -/
theorem units_aligned (h : f.Aligned digits place) :
    f.units (place * twoTo f.fractionBits + digits) = digits * twoTo place := by
  obtain ⟨hlt, hplace⟩ := h
  have hroom := twoTo_pos f.fractionBits
  by_cases hlow : digits < twoTo f.fractionBits
  · obtain rfl : place = 0 := hplace.resolve_right (by omega)
    simp only [units, Nat.zero_mul, Nat.zero_add, Nat.div_eq_of_lt hlow, Nat.mod_eq_of_lt hlow, if_true]
    exact (Nat.mul_one digits).symm
  · -- The leading digit is the first unit of the next binade.
    have hsplit : place * twoTo f.fractionBits + digits =
        (digits - twoTo f.fractionBits) + twoTo f.fractionBits * (place + 1) := by
      rw [Nat.mul_succ, Nat.mul_comm place]
      omega
    have hfraction : digits - twoTo f.fractionBits < twoTo f.fractionBits := by omega
    have hbinade : (place * twoTo f.fractionBits + digits) / twoTo f.fractionBits = place + 1 := by
      rw [hsplit, Nat.add_mul_div_left _ _ hroom, Nat.div_eq_of_lt hfraction, Nat.zero_add]
    have hrest : (place * twoTo f.fractionBits + digits) % twoTo f.fractionBits = digits - twoTo f.fractionBits := by
      rw [hsplit, Nat.add_mul_mod_self_left, Nat.mod_eq_of_lt hfraction]
    have hdigits : twoTo f.fractionBits + (digits - twoTo f.fractionBits) = digits := by omega
    simp only [units, hbinade, hrest, hdigits, Nat.succ_ne_zero, if_false, Nat.add_sub_cancel]

/-- The place of digits is told by the size of the magnitude. -/
theorem log2_aligned (h : f.Aligned digits place) : (digits * twoTo place).log2 - f.fractionBits = place := by
  obtain ⟨hlt, hplace⟩ := h
  by_cases hlow : digits < twoTo f.fractionBits
  · obtain rfl : place = 0 := hplace.resolve_right (by omega)
    have hone : digits * twoTo 0 = digits := Nat.mul_one digits
    rw [hone]
    by_cases hzero : digits = 0
    · subst hzero
      exact Nat.zero_sub _
    · have hlog : digits.log2 < f.fractionBits := (Nat.log2_lt hzero).2 hlow
      omega
  · have hroom := twoTo_pos f.fractionBits
    have hne : digits * twoTo place ≠ 0 := Nat.mul_ne_zero (by omega) (by have := twoTo_pos place; omega)
    have hlog : (digits * twoTo place).log2 = f.fractionBits + place := by
      refine (Nat.log2_eq_iff hne).2 ⟨?_, ?_⟩
      · have hmul := Nat.mul_le_mul_right (twoTo place) (Nat.not_lt.1 hlow)
        rwa [← twoTo_add] at hmul
      · have hmul := Nat.mul_lt_mul_of_pos_right hlt (twoTo_pos place)
        rw [Nat.mul_assoc, ← twoTo_add, ← twoTo_succ] at hmul
        exact hmul
    omega

/-- Digits with room to spare are held at the same place or at one further down. -/
theorem exists_aligned_of_lt (f : FloatFormat) {digits : Nat} (h : digits < 2 * twoTo f.fractionBits) (place : Nat) :
    ∃ digits' place', f.Aligned digits' place' ∧ place' ≤ place ∧
      digits' * twoTo place' = digits * twoTo place := by
  induction place generalizing digits with
  | zero => exact ⟨digits, 0, ⟨h, .inl rfl⟩, Nat.le_refl 0, rfl⟩
  | succ place ih =>
    by_cases hlow : twoTo f.fractionBits ≤ digits
    · exact ⟨digits, place + 1, ⟨h, .inr hlow⟩, Nat.le_refl _, rfl⟩
    · have hroom : 2 * digits < 2 * twoTo f.fractionBits := by omega
      obtain ⟨digits', place', haligned, hplace, hvalue⟩ := ih hroom
      refine ⟨digits', place', haligned, Nat.le_succ_of_le hplace, hvalue.trans ?_⟩
      rw [twoTo_succ, Nat.mul_comm 2 digits, Nat.mul_assoc]

/-- A magnitude that the format holds rounds to its own rank. -/
theorem nearestRank_aligned (h : f.Aligned digits place) {num den : Nat} (hden : 0 < den)
    (hvalue : num * twoTo f.unitExponent = digits * twoTo place * den) :
    f.nearestRank num den = place * twoTo f.fractionBits + digits := by
  have hshift : f.binadeShift num den = place := by
    rw [binadeShift, hvalue, Nat.mul_div_cancel _ hden, log2_aligned h]
  have hround : digits * twoTo place * den = digits * (den * twoTo place) := by
    rw [Nat.mul_assoc, Nat.mul_comm (twoTo place)]
  rw [nearestRank_eq, hshift, hvalue, hround, roundHalfEven_mul (Nat.mul_pos hden (twoTo_pos place))]

/-- The magnitude of a rank rounds to the rank. -/
theorem nearestRank_units (f : FloatFormat) {num den rank : Nat} (hden : 0 < den)
    (hvalue : num * twoTo f.unitExponent = f.units rank * den) : f.nearestRank num den = rank := by
  obtain ⟨digits, place, haligned, rfl⟩ := exists_aligned f rank
  rw [units_aligned haligned] at hvalue
  exact nearestRank_aligned haligned hden hvalue

end FloatFormat

/-! ## From 32 bits to 64 bits and back -/

open FloatFormat

/-- The rank that a finite number of 32 bits has in 64 bits: its magnitude is the same one in smaller units. -/
theorem exists_wideRank (x : Finite .single) :
    ∃ rank, rank < FloatFormat.double.infinityRank ∧ FloatFormat.double.units rank = x.units * twoTo 925 := by
  obtain ⟨digits, place, haligned, hrank⟩ := exists_aligned .single x.rank
  have hdigits : digits < 2 * twoTo 23 := haligned.1
  have hroom : 2 * twoTo 23 ≤ 2 * twoTo 52 := Nat.mul_le_mul_left 2 (twoTo_mono (by decide))
  obtain ⟨digits', place', haligned', hplace, hvalue⟩ :=
    exists_aligned_of_lt .double (Nat.lt_of_lt_of_le hdigits hroom) (place + 925)
  refine ⟨place' * twoTo 52 + digits', ?_, ?_⟩
  · have hinfinity : FloatFormat.single.infinityRank = 255 * twoTo 23 := rfl
    have hinfinity' : FloatFormat.double.infinityRank = 2047 * twoTo 52 := rfl
    have hfinite := x.rank_lt
    rw [hrank, hinfinity] at hfinite
    have hsmall : place < 255 :=
      Nat.lt_of_mul_lt_mul_right (Nat.lt_of_le_of_lt (Nat.le_add_right _ _) hfinite)
    have hdigits' : digits' < 2 * twoTo 52 := haligned'.1
    rw [hinfinity']
    calc place' * twoTo 52 + digits' < place' * twoTo 52 + 2 * twoTo 52 := Nat.add_lt_add_left hdigits' _
      _ = (place' + 2) * twoTo 52 := (Nat.add_mul _ _ _).symm
      _ ≤ 2047 * twoTo 52 := Nat.mul_le_mul_right _ (by omega)
  · have hunits := units_aligned haligned
    have hunits' := units_aligned haligned'
    rw [← hrank] at hunits
    rw [Finite.units, hunits, Nat.mul_assoc, ← twoTo_add]
    exact hunits'.trans hvalue

/-- A number of 32 bits comes back from 64 bits. -/
theorem convert_convert (x : Single) : (x.convert .double).convert .single = x := by
  cases x with
  | nan => rfl
  | infinite negative => rfl
  | finite x =>
    obtain ⟨rank, hrank, hunits⟩ := exists_wideRank x
    have hsingle : FloatFormat.single.unitExponent = 149 := by decide
    have hdouble : FloatFormat.double.unitExponent = 1074 := by decide
    have hwide : FloatFormat.double.nearestRank x.units (twoTo FloatFormat.single.unitExponent) = rank := by
      refine nearestRank_units .double (twoTo_pos _) ?_
      rw [hunits, hsingle, hdouble, Nat.mul_assoc, ← twoTo_add]
    have hnarrow : FloatFormat.single.nearestRank (FloatFormat.double.units rank)
        (twoTo FloatFormat.double.unitExponent) = x.rank := by
      refine nearestRank_units .single (twoTo_pos _) ?_
      rw [hunits, hsingle, hdouble, Nat.mul_assoc, ← twoTo_add]
      rfl
    have hconvert : (Binary.finite x).convert .double = .finite ⟨x.negative, rank, hrank⟩ := by
      rw [Binary.convert, Binary.nearest, hwide, Binary.ofRank, dif_pos hrank]
    rw [hconvert, Binary.convert, Binary.nearest, Finite.units, hnarrow, Binary.ofRank, dif_pos x.rank_lt]

end SheetQuery.Decimal
