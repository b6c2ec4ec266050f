import SheetQuery.Decimal.Reading
import SheetQuery.Proofs.Outcome

/-!
# Integers read back

A list of digits is read as the number it denotes as long as that number is within the bound: the number only grows with
each digit, so no beginning of the list is past the bound either. The text of an integer of a width therefore reads back
as that integer. In the other direction nothing is ever read but the integer that a text denotes, and only if the width has it
(`integerText_of_readInteger`, `holds_of_readInteger`).
-/

namespace SheetQuery.Decimal

/-! ## Widths -/

/-- A width has the integers from its least to its greatest. -/
theorem IntWidth.holds_iff {width : IntWidth} {i : Int} :
    width.holds i = true ↔ width.least ≤ i ∧ i ≤ width.greatest := by
  rw [IntWidth.holds, Bool.and_eq_true, decide_eq_true_iff, decide_eq_true_iff]

/-- The integers of a width with a sign fit 64 bits with a sign. -/
theorem signed_bounds {width : IntWidth} (h : width.signed = true) :
    -9223372036854775808 ≤ width.least ∧ width.greatest < 9223372036854775808 := by
  revert h
  cases width <;> decide

/-- The integers of a width without a sign fit 64 bits without a sign. -/
theorem unsigned_bounds {width : IntWidth} (h : width.signed = false) :
    0 ≤ width.least ∧ width.greatest < 18446744073709551616 := by
  revert h
  cases width <;> decide

/-- A word with a sign has the integer of its width. -/
theorem toInt_ofInt {width : IntWidth} (hs : width.signed = true) {i : Int} (h : width.holds i = true) :
    (Int64.ofInt i).toInt = i := by
  obtain ⟨hlow, hhigh⟩ := signed_bounds hs
  rw [IntWidth.holds_iff] at h
  exact Int64.toInt_ofInt_of_le (by omega) (by omega)

/-- A word without a sign has the integer of its width. -/
theorem toNat_ofNat {width : IntWidth} (hs : width.signed = false) {i : Int} (h : width.holds i = true) :
    ((UInt64.ofNat i.toNat).toNat : Int) = i := by
  obtain ⟨hlow, hhigh⟩ := unsigned_bounds hs
  rw [IntWidth.holds_iff] at h
  have hsize : i.toNat < UInt64.size := by
    have hsize : UInt64.size = 18446744073709551616 := rfl
    omega
  rw [UInt64.toNat_ofNat_of_lt' hsize]
  omega

/-! ## Digits -/

/-- The value of a digit of the ASCII set. -/
theorem digitValue?_of_isDigit {c : Char} (h : c.isDigit = true) : digitValue? c = some (c.toNat - '0'.toNat) := by
  simp only [digitValue?, h, if_true]

/-- A number does not shrink when digits are put behind it. -/
theorem le_ofDigitChars (value : Nat) (digits : List Char) : value ≤ Nat.ofDigitChars 10 digits value := by
  induction digits generalizing value with
  | nil => exact Nat.le_refl _
  | cons c digits ih =>
    rw [Nat.ofDigitChars_cons]
    have := ih (10 * value + (c.toNat - '0'.toNat))
    omega

/-- Digits are read as the number they denote, if that is within the bound. -/
theorem readDigits_of_digits {bound : Nat} (past : IntegerError) {digits : List Char} {value : Nat}
    (hd : ∀ c ∈ digits, c.isDigit = true) (hb : Nat.ofDigitChars 10 digits value ≤ bound) :
    readDigits bound past value digits = .ok (Nat.ofDigitChars 10 digits value) := by
  induction digits generalizing value with
  | nil => rfl
  | cons c digits ih =>
    have hc := hd c List.mem_cons_self
    have hnext : 10 * value + (c.toNat - '0'.toNat) = value * 10 + (c.toNat - '0'.toNat) := by omega
    rw [Nat.ofDigitChars_cons, hnext] at hb ⊢
    have hle := le_ofDigitChars (value * 10 + (c.toNat - '0'.toNat)) digits
    simp only [readDigits, digitValue?_of_isDigit hc]
    rw [if_neg (by omega)]
    exact ih (fun c' hc' => hd c' (List.mem_cons_of_mem c hc')) hb

/-- The digits of a number are digits of the ASCII set. -/
theorem isDigit_of_mem_toDigits {c : Char} {n : Nat} (h : c ∈ Nat.toDigits 10 n) : c.isDigit = true :=
  Nat.isDigit_of_mem_toDigits (by decide) (by decide) h

/-- The digits of a number within the bound are read as that number. -/
theorem readDigits_toDigits {bound n : Nat} (past : IntegerError) (h : n ≤ bound) :
    readDigits bound past 0 (Nat.toDigits 10 n) = .ok n := by
  have hd : ∀ c ∈ Nat.toDigits 10 n, c.isDigit = true := fun _ => isDigit_of_mem_toDigits
  have hv : Nat.ofDigitChars 10 (Nat.toDigits 10 n) 0 = n := Nat.ofDigitChars_ten_toDigits
  rw [readDigits_of_digits past hd (by rw [hv]; exact h), hv]

/-- The text of an integer: its digits, after a minus sign if it is negative. -/
theorem toList_toString (i : Int) :
    (toString i).toList = if i < 0 then '-' :: Nat.toDigits 10 i.natAbs else Nat.toDigits 10 i.natAbs := by
  cases i with
  | ofNat n =>
    have h : ¬(Int.ofNat n < 0) := by simp
    rw [if_neg h]
    exact Nat.toList_repr
  | negSucc n =>
    rw [if_pos (Int.negSucc_lt_zero n)]
    change ("-" ++ (n + 1).repr).toList = _
    rw [String.toList_append, Nat.toList_repr]
    rfl

/-- Whether a text is decimal digits, at least one. -/
structure IsDigits (text : List Char) : Prop where
  nonempty : text ≠ []
  digits : ∀ c ∈ text, c.isDigit = true

theorem isDigits_toDigits (n : Nat) : IsDigits (Nat.toDigits 10 n) :=
  ⟨Nat.toDigits_ne_nil, fun _ => isDigit_of_mem_toDigits⟩

/-- Digits begin with a digit. -/
theorem IsDigits.exists_cons {digits : List Char} (h : IsDigits digits) :
    ∃ c rest, digits = c :: rest ∧ c.isDigit = true := by
  obtain ⟨c, rest, rfl⟩ := List.exists_cons_of_ne_nil h.nonempty
  exact ⟨c, rest, rfl, h.digits c List.mem_cons_self⟩

/-- Digits without a sign are read as a non-negative integer. -/
theorem readInteger_digits (width : IntWidth) {digits : List Char} (h : IsDigits digits) :
    readInteger width digits = Int.ofNat <$> readDigits width.greatest.toNat .tooLarge 0 digits := by
  obtain ⟨c, rest, rfl, hc⟩ := h.exists_cons
  have hplus : c ≠ '+' := by rintro rfl; exact absurd hc (by decide)
  have hminus : c ≠ '-' := by rintro rfl; exact absurd hc (by decide)
  unfold readInteger
  split <;> simp_all

/-- Digits after a plus sign are read as they are without it. -/
theorem readInteger_plus_digits (width : IntWidth) {digits : List Char} (h : IsDigits digits) :
    readInteger width ('+' :: digits) = Int.ofNat <$> readDigits width.greatest.toNat .tooLarge 0 digits := by
  obtain ⟨c, rest, rfl, -⟩ := h.exists_cons
  unfold readInteger
  split <;> simp_all

/-- Digits after a minus sign are read as a negative integer, if the width has a sign. -/
theorem readInteger_minus_digits {width : IntWidth} (hs : width.signed = true) {digits : List Char} (h : IsDigits digits) :
    readInteger width ('-' :: digits) =
      (fun n => -(n : Int)) <$> readDigits (-width.least).toNat .tooSmall 0 digits := by
  obtain ⟨c, rest, rfl, -⟩ := h.exists_cons
  unfold readInteger
  split <;> simp_all

/-- The text of an integer that has a width reads back as that integer. -/
theorem readInteger_toString {width : IntWidth} {i : Int} (h : width.holds i = true) :
    readInteger width (toString i).toList = .ok i := by
  rw [IntWidth.holds_iff] at h
  rw [toList_toString]
  by_cases hi : i < 0
  · have hs : width.signed = true := by
      cases width <;> first | rfl | (exfalso; simp only [IntWidth.least] at h; omega)
    rw [if_pos hi, readInteger_minus_digits hs (isDigits_toDigits _), readDigits_toDigits _ (by omega)]
    have habs : -(i.natAbs : Int) = i := by omega
    exact congrArg Except.ok habs
  · rw [if_neg hi, readInteger_digits _ (isDigits_toDigits _), readDigits_toDigits _ (by omega)]
    have habs : (i.natAbs : Int) = i := by omega
    exact congrArg Except.ok habs

/-! ## What is read -/

/-- A number that is read is within the bound, if what it continues is. -/
theorem readDigits_le {bound : Nat} {past : IntegerError} {digits : List Char} {value n : Nat} (hv : value ≤ bound)
    (h : readDigits bound past value digits = .ok n) : n ≤ bound := by
  induction digits generalizing value with
  | nil => exact Except.ok.inj h ▸ hv
  | cons c digits ih =>
    rw [readDigits] at h
    cases hd : digitValue? c with
    | none => rw [hd] at h; nomatch h
    | some d =>
      rw [hd] at h
      by_cases hpast : bound < value * 10 + d
      · simp only [hpast, if_true] at h
        nomatch h
      · simp only [hpast, if_false] at h
        exact ih (by omega) h

/-- Zero lies between the least and the greatest integer of a width. -/
theorem least_greatest (width : IntWidth) : width.least ≤ 0 ∧ 0 ≤ width.greatest := by
  cases width <;> decide

/-- Digits up to the greatest integer of a width are read as an integer of the width. -/
theorem holds_of_readDigits {width : IntWidth} {past : IntegerError} {digits : List Char} {i : Int}
    (h : Int.ofNat <$> readDigits width.greatest.toNat past 0 digits = .ok i) : width.holds i = true := by
  obtain ⟨hleast, hgreatest⟩ := least_greatest width
  obtain ⟨n, hr, rfl⟩ := exists_of_map_ok h
  have hn := readDigits_le (Nat.zero_le _) hr
  rw [IntWidth.holds_iff, Int.ofNat_eq_natCast]
  omega

/-- Digits down to the least integer of a width are read as an integer of the width. -/
theorem holds_of_readDigits_neg {width : IntWidth} {past : IntegerError} {digits : List Char} {i : Int}
    (h : (fun n => -(n : Int)) <$> readDigits (-width.least).toNat past 0 digits = .ok i) :
    width.holds i = true := by
  obtain ⟨hleast, hgreatest⟩ := least_greatest width
  obtain ⟨i, hi, rfl⟩ := exists_of_map_ok h
  obtain ⟨n, hr, hi⟩ := exists_of_bind_ok hi
  obtain rfl := Except.ok.inj hi
  have hn := readDigits_le (Nat.zero_le _) hr
  rw [IntWidth.holds_iff]
  omega

/-- Only integers of the width are read. -/
theorem holds_of_readInteger {width : IntWidth} {text : List Char} {i : Int} (h : readInteger width text = .ok i) :
    width.holds i = true := by
  unfold readInteger at h
  split at h
  · nomatch h
  · nomatch h
  · nomatch h
  · exact holds_of_readDigits h
  · split at h
    · exact holds_of_readDigits_neg h
    · nomatch h
  · exact holds_of_readDigits h

/-- What is read of digits is the number they denote. -/
theorem eq_ofDigitChars_of_readDigits {bound : Nat} {past : IntegerError} {digits : List Char} {value n : Nat}
    (h : readDigits bound past value digits = .ok n) : n = Nat.ofDigitChars 10 digits value := by
  induction digits generalizing value with
  | nil => exact (Except.ok.inj h).symm
  | cons c digits ih =>
    rw [readDigits] at h
    by_cases hc : c.isDigit
    · rw [digitValue?_of_isDigit hc] at h
      by_cases hpast : bound < value * 10 + (c.toNat - '0'.toNat)
      · simp only [hpast, if_true] at h
        nomatch h
      · simp only [hpast, if_false] at h
        rw [Nat.ofDigitChars_cons, Nat.mul_comm 10 value]
        exact ih h
    · simp only [digitValue?, hc] at h
      nomatch h

/-! ## Texts that denote integers -/

/-- Which integer a text denotes: one or more digits after an optional sign. -/
inductive IntegerText : List Char → Int → Prop where
  | unsigned {digits : List Char} (h : IsDigits digits) : IntegerText digits (Nat.ofDigitChars 10 digits 0)
  | plus {digits : List Char} (h : IsDigits digits) : IntegerText ('+' :: digits) (Nat.ofDigitChars 10 digits 0)
  | minus {digits : List Char} (h : IsDigits digits) : IntegerText ('-' :: digits) (-(Nat.ofDigitChars 10 digits 0 : Int))

/-- The integer that digits after an optional sign denote. -/
def signedValue : List Char → Int
  | '-' :: digits => -(Nat.ofDigitChars 10 digits 0 : Int)
  | '+' :: digits => Nat.ofDigitChars 10 digits 0
  | digits => Nat.ofDigitChars 10 digits 0

/-- A text denotes no more than one integer. -/
theorem IntegerText.eq_signedValue {text : List Char} {i : Int} (h : IntegerText text i) : i = signedValue text := by
  cases h with
  | unsigned hdigits =>
    obtain ⟨c, rest, rfl, hc⟩ := hdigits.exists_cons
    unfold signedValue
    split <;> simp_all
  | plus | minus => rfl

/-- Only digits are read. -/
theorem isDigit_of_readDigits {bound : Nat} {past : IntegerError} {digits : List Char} {value n : Nat}
    (h : readDigits bound past value digits = .ok n) : ∀ c ∈ digits, c.isDigit = true := by
  induction digits generalizing value with
  | nil => exact fun c hc => nomatch hc
  | cons c digits ih =>
    rw [readDigits] at h
    by_cases hc : c.isDigit
    · rw [digitValue?_of_isDigit hc] at h
      dsimp only at h
      split at h
      · nomatch h
      · exact List.forall_mem_cons.2 ⟨hc, ih h⟩
    · simp only [digitValue?, hc] at h
      nomatch h

/-- What is read of a text is an integer that the text denotes. -/
theorem integerText_of_readInteger {width : IntWidth} {text : List Char} {i : Int} (h : readInteger width text = .ok i) :
    IntegerText text i := by
  have hread : ∀ {bound past digits n}, digits ≠ [] → readDigits bound past 0 digits = .ok n →
      IsDigits digits ∧ n = Nat.ofDigitChars 10 digits 0 := fun hne hn =>
    ⟨⟨hne, isDigit_of_readDigits hn⟩, eq_ofDigitChars_of_readDigits hn⟩
  unfold readInteger at h
  split at h
  · nomatch h
  · nomatch h
  · nomatch h
  · rename_i hne
    obtain ⟨n, hn, rfl⟩ := exists_of_map_ok h
    obtain ⟨hdigits, rfl⟩ := hread (fun hnil => hne (by rw [hnil])) hn
    exact .plus hdigits
  · rename_i hne
    split at h
    · obtain ⟨m, hm, rfl⟩ := exists_of_map_ok h
      obtain ⟨n, hn, hm⟩ := exists_of_bind_ok hm
      obtain rfl := Except.ok.inj hm
      obtain ⟨hdigits, rfl⟩ := hread (fun hnil => hne (by rw [hnil])) hn
      exact .minus hdigits
    · nomatch h
  · rename_i hne _ _ _ _
    obtain ⟨n, hn, rfl⟩ := exists_of_map_ok h
    obtain ⟨hdigits, rfl⟩ := hread hne hn
    exact .unsigned hdigits

/-- What is read of a text is the integer it denotes. -/
theorem eq_signedValue_of_readInteger {width : IntWidth} {text : List Char} {i : Int}
    (h : readInteger width text = .ok i) : i = signedValue text :=
  (integerText_of_readInteger h).eq_signedValue

/-- A text is read as the integer that it denotes, if the width has it, and a sign if there is a minus. -/
theorem readInteger_of_integerText {width : IntWidth} {text : List Char} {i : Int} (h : IntegerText text i)
    (hholds : width.holds i = true) (hsigned : text.head? = some '-' → width.signed = true) :
    readInteger width text = .ok i := by
  rw [IntWidth.holds_iff] at hholds
  cases h with
  | unsigned hdigits =>
    rw [readInteger_digits _ hdigits, readDigits_of_digits _ hdigits.digits (by omega)]
    rfl
  | plus hdigits =>
    rw [readInteger_plus_digits _ hdigits, readDigits_of_digits _ hdigits.digits (by omega)]
    rfl
  | minus hdigits =>
    rw [readInteger_minus_digits (hsigned rfl) hdigits, readDigits_of_digits _ hdigits.digits (by omega)]
    rfl

/-- The text of an integer denotes it. -/
theorem integerText_toString (i : Int) : IntegerText (toString i).toList i := by
  have hvalue : Nat.ofDigitChars 10 (Nat.toDigits 10 i.natAbs) 0 = i.natAbs := Nat.ofDigitChars_ten_toDigits
  have hdigits := isDigits_toDigits i.natAbs
  rw [toList_toString]
  split
  · have htext := IntegerText.minus hdigits
    rwa [hvalue, show -(i.natAbs : Int) = i by omega] at htext
  · have htext := IntegerText.unsigned hdigits
    rwa [hvalue, show (i.natAbs : Int) = i by omega] at htext

end SheetQuery.Decimal
