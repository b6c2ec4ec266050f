import SheetQuery.Decimal.Notation
import SheetQuery.Proofs.Decimal.Integer

/-!
# The characters of written numbers

Whatever the style, the text of a number is never empty and has only letters, digits, points and signs in it, so that no
separator and no end of line can come from a number.
-/

namespace SheetQuery.Decimal

/-- A letter, a digit, a point or a sign. -/
def isNumberChar (c : Char) : Bool :=
  c.isAlphanum || c == '.' || c == '+' || c == '-'

/-- Whether a text can be that of a number: it is not empty and has only letters, digits, points and signs. -/
def IsNumberText (text : List Char) : Prop :=
  text ≠ [] ∧ ∀ c ∈ text, isNumberChar c = true

/-- A written-out text is that of a number if a look at its characters says so. -/
theorem isNumberText_of_all {text : List Char} (hne : text ≠ []) (h : text.all isNumberChar = true) : IsNumberText text :=
  ⟨hne, List.all_eq_true.1 h⟩

/-- A digit is a character of numbers. -/
theorem isNumberChar_of_isDigit {c : Char} (h : c.isDigit = true) : isNumberChar c = true := by
  simp only [isNumberChar, Char.isAlphanum, h, Bool.or_true, Bool.true_or]

/-- The digits that are kept of a decimal are digits. -/
theorem isDigit_of_mem_significant {d : Scaled} {c : Char} (h : c ∈ (significant d).1) : c.isDigit = true := by
  rw [significant, List.mem_reverse] at h
  have hsub := (List.dropWhile_sublist (· == '0') (l := (Nat.toDigits 10 d.coefficient).reverse)).mem h
  exact isDigit_of_mem_toDigits (List.mem_reverse.1 hsub)

/-- Digits with a point among them, or zeros beside them, are the text of a number. -/
theorem isNumberText_positional (keepPoint : Bool) {digits : List Char} (h : ∀ c ∈ digits, c.isDigit = true)
    (point : Int) : IsNumberText (positionalDigits keepPoint digits point) := by
  have hdigits : ∀ c ∈ digits, isNumberChar c = true := fun c hc => isNumberChar_of_isDigit (h c hc)
  have hzeros : ∀ (n : Nat), ∀ c ∈ List.replicate n '0', isNumberChar c = true := by
    intro n c hc
    rw [(List.mem_replicate.1 hc).2]
    rfl
  rw [positionalDigits]
  split
  · refine ⟨by simp, fun c hc => ?_⟩
    simp only [List.mem_append] at hc
    rcases hc with (hc | hc) | hc
    · exact List.all_eq_true.1 (show ['0', '.'].all isNumberChar = true from rfl) c hc
    · exact hzeros _ c hc
    · exact hdigits c hc
  · split
    · rename_i hpos hlen
      constructor
      · intro e
        have hl := congrArg List.length e
        simp only [List.length_append, List.length_replicate, List.length_nil] at hl
        omega
      · intro c hc
        simp only [List.mem_append] at hc
        rcases hc with (hc | hc) | hc
        · exact hdigits c hc
        · exact hzeros _ c hc
        · have hpoint : (if keepPoint then ['.', '0'] else []).all isNumberChar = true := by
            cases keepPoint <;> rfl
          exact List.all_eq_true.1 hpoint c hc
    · refine ⟨by simp, fun c hc => ?_⟩
      simp only [List.mem_append] at hc
      rcases hc with (hc | hc) | hc
      · exact hdigits c (List.mem_of_mem_take hc)
      · exact List.all_eq_true.1 (show ['.'].all isNumberChar = true from rfl) c hc
      · exact hdigits c (List.mem_of_mem_drop hc)

/-- Digits with an exponent are the text of a number. -/
theorem isNumberText_scientific {digits : List Char} (h : ∀ c ∈ digits, c.isDigit = true) (exponent : Int) :
    IsNumberText (scientificDigits digits exponent) := by
  rw [scientificDigits.eq_def]
  refine ⟨by simp, fun c hc => ?_⟩
  simp only [List.mem_append, List.mem_cons, List.not_mem_nil, or_false] at hc
  rcases hc with (hmantissa | rfl | rfl) | hexponent
  · split at hmantissa
    · exact absurd hmantissa List.not_mem_nil
    · exact isNumberChar_of_isDigit (h c hmantissa)
    · rcases List.mem_cons.1 hmantissa with rfl | hrest
      · exact isNumberChar_of_isDigit (h _ List.mem_cons_self)
      · rcases List.mem_cons.1 hrest with rfl | hrest
        · rfl
        · exact isNumberChar_of_isDigit (h c (List.mem_cons_of_mem _ hrest))
  · rfl
  · split <;> rfl
  · exact isNumberChar_of_isDigit (isDigit_of_mem_toDigits hexponent)

/-- The text of a decimal is the text of a number. -/
theorem isNumberText_digits (style : Style) (d : Scaled) : IsNumberText (style.digits d) := by
  rw [Style.digits]
  split
  · cases style.keepPoint
    · exact isNumberText_of_all (by decide) (by decide)
    · exact isNumberText_of_all (by decide) (by decide)
  · have hd : ∀ c ∈ (significant d).1, c.isDigit = true := fun c hc => isDigit_of_mem_significant hc
    cases style.positional with
    | none => exact isNumberText_positional _ hd _
    | some range =>
      simp only
      split
      · exact isNumberText_positional _ hd _
      · exact isNumberText_scientific hd _

/-- The text of a number in any style. -/
theorem isNumberText_text (style : Style) {f : FloatFormat} (x : Binary f) : IsNumberText (style.text x).toList := by
  cases x with
  | nan =>
    have h : IsNumberText "NaN".toList := isNumberText_of_all (by decide) (by decide)
    exact h
  | infinite negative =>
    have hm : IsNumberText "-inf".toList := isNumberText_of_all (by decide) (by decide)
    have hp : IsNumberText "inf".toList := isNumberText_of_all (by decide) (by decide)
    cases negative
    · exact hp
    · exact hm
  | finite x =>
    obtain ⟨hne, hchars⟩ := isNumberText_digits style (shortest f style.tie x.rank)
    rw [Style.text, String.toList_ofList, Style.finite]
    refine ⟨by simp [hne], fun c hc => ?_⟩
    rcases List.mem_append.1 hc with hc | hc
    · split at hc
      · rw [List.mem_singleton.1 hc]
        rfl
      · nomatch hc
    · exact hchars c hc

/-- The text of an integer is the text of a number. -/
theorem isNumberText_toString (i : Int) : IsNumberText (toString i).toList := by
  have hd : ∀ c ∈ Nat.toDigits 10 i.natAbs, isNumberChar c = true := fun c hc =>
    isNumberChar_of_isDigit (isDigit_of_mem_toDigits hc)
  rw [toList_toString]
  split
  · refine ⟨List.cons_ne_nil _ _, fun c hc => ?_⟩
    rcases List.mem_cons.1 hc with rfl | hc
    · rfl
    · exact hd c hc
  · exact ⟨Nat.toDigits_ne_nil, hd⟩

end SheetQuery.Decimal
