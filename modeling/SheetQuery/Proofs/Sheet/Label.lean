import SheetQuery.Proofs.Text.Blank
import SheetQuery.Proofs.Text.Lowercase
import SheetQuery.Sheet.Label
import SheetQuery.Sheet.Writer

/-!
# Labels in capitals

The header is written with the names of the fields in capitals. Capitals of the ASCII set have the lower case of the letters
they are made from, and only letters become other characters, so a name and its capitals are one label.
-/

namespace SheetQuery.Sheet

open Text

/-! ## One character -/

/-- A character outside the ASCII set has no capital there. -/
theorem toUpper_of_le {c : Char} (h : 0x80 ≤ c.toNat) : c.toUpper = c := by
  have h1 : ¬(c ≥ 'a' ∧ c ≤ 'z') := by
    rintro ⟨-, hz⟩
    have hc : c.toNat ≤ 'z'.toNat := hz
    have hz' : 'z'.toNat = 122 := rfl
    omega
  exact dif_neg h1

/-- Inside the ASCII set a capital has the lower case of its letter, and what is no letter stays as it is. -/
theorem toUpper_ascii : ∀ c : Char, c.toNat < 0x80 → lowercase c.toUpper = lowercase c ∧
    (c.toUpper = c ∨ c.isAlpha = true ∧ c.toUpper.isAlpha = true) := by
  refine ascii_forall ?_
  decide

/-- A capital has the lower case of its letter. -/
theorem lowercase_toUpper (c : Char) : lowercase c.toUpper = lowercase c := by
  by_cases h : c.toNat < 0x80
  · exact (toUpper_ascii c h).1
  · rw [toUpper_of_le (by omega)]

/-- What is no letter is the capital of itself only. -/
theorem toUpper_eq_iff {c d : Char} (hd : d.isAlpha = false) : c.toUpper = d ↔ c = d := by
  by_cases h : c.toNat < 0x80
  · rcases (toUpper_ascii c h).2 with hc | ⟨h1, h2⟩
    · rw [hc]
    · constructor
      · rintro rfl
        rw [h2] at hd
        nomatch hd
      · rintro rfl
        rw [h1] at hd
        nomatch hd
  · rw [toUpper_of_le (by omega)]

theorem toUpper_beq {d : Char} (hd : d.isAlpha = false) (c : Char) : (c.toUpper == d) = (c == d) := by
  rw [Bool.eq_iff_iff, beq_iff_eq, beq_iff_eq, toUpper_eq_iff hd]

/-! ## Texts -/

/-- Characters with one lower case are the same as a character that no other has for its lower case. -/
theorem beq_of_lowercase {c d e : Char} (h : lowercase c = lowercase d) (he : e.toNat < 0x61) (hself : e ∈ lowercase e) :
    (c == e) = (d == e) := by
  rw [Bool.eq_iff_iff, beq_iff_eq, beq_iff_eq]
  constructor
  · rintro rfl
    rw [h] at hself
    exact eq_of_mem_lowercase he hself
  · rintro rfl
    rw [← h] at hself
    exact eq_of_mem_lowercase he hself

/-- A label stays the same when its characters are changed for others with the same lower case. -/
theorem normalizeChars_map {f : Char → Char} (hf : ∀ c, lowercase (f c) = lowercase c) (label : List Char) :
    normalizeChars (label.map f) = normalizeChars label := by
  have hstar : ∀ c, (f c == '*') = (c == '*') := fun c => beq_of_lowercase (hf c) (by decide) (by decide)
  have hscore : ∀ c, (f c != '_') = (c != '_') := fun c =>
    congrArg not (beq_of_lowercase (hf c) (by decide) (by decide))
  have hfilter : ∀ cs : List Char, (cs.map f).filter (· != '_') = (cs.filter (· != '_')).map f := by
    intro cs
    rw [List.filter_map]
    exact congrArg _ (List.filter_congr fun c _ => hscore c)
  rw [normalizeChars, normalizeChars, dropEnds_map hstar, hfilter, List.flatMap_map]
  exact congrArg (List.flatMap · _) (funext hf)

/-- A name and its capitals are one label. -/
theorem normalizeLabel_upperAscii (name : String) : normalizeLabel (upperAscii name) = normalizeLabel name := by
  rw [normalizeLabel, normalizeLabel, upperAscii, String.toList_ofList, normalizeChars_map lowercase_toUpper]

/-- The capitals of a text that can stand in a cell can. -/
theorem isCellText_upperAscii {name : String} (h : isCellText name = true) : isCellText (upperAscii name) = true := by
  rw [isCellText, List.all_eq_true] at h ⊢
  intro c hc
  rw [upperAscii, String.toList_ofList, List.mem_map] at hc
  obtain ⟨d, hd, rfl⟩ := hc
  have hcell := h d hd
  simp only [bne, toUpper_beq (d := '^') (by decide), toUpper_beq (d := '\r') (by decide),
    toUpper_beq (d := '\n') (by decide)] at hcell ⊢
  exact hcell

/-- The capitals of a text are as many as its characters. -/
theorem upperAscii_ne_empty {name : String} (h : name ≠ "") : (upperAscii name).toList ≠ [] := by
  rw [upperAscii, String.toList_ofList]
  intro e
  exact h (String.toList_eq_nil_iff.1 (List.map_eq_nil_iff.1 e))

end SheetQuery.Sheet
