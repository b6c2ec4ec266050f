import Mathlib.Data.List.TakeWhile
import SheetQuery.Json.Reader
import SheetQuery.Json.Writer
import SheetQuery.Proofs.Json.Members

/-!
# Texts read back

Between quotation marks every character of a text is written as itself or as an escape that stands for it (`Escaped`). So
whatever a text is, the quotation mark behind it is the first one that ends it, nothing in it ends the line, and what is read
is the text (`readLiteral_escaped`, `unescape?_escaped`).
-/

namespace SheetQuery.Json

/-- How a character is written between quotation marks: as itself, or as an escape of one letter or of four digits. -/
inductive Escaped (c : Char) : List Char → Prop where
  | plain (quote : c ≠ '"') (mark : c ≠ '\\') (printable : 0x20 ≤ c.toNat) : Escaped c [c]
  | short {e : Char} (letter : e ≠ 'u') (printable : 0x20 ≤ e.toNat) (stands : shortEscape? e = some c) :
      Escaped c ['\\', e]
  | quad {high low : Char} (printable : 0x20 ≤ high.toNat ∧ 0x20 ≤ low.toNat) (control : c.toNat < 0x20)
      (stands : hexQuad? '0' '0' high low = some c.toNat) : Escaped c ['\\', 'u', '0', '0', high, low]

/-- The two digits of a control character denote it. -/
theorem hexQuad?_control : ∀ n < 0x20, hexQuad? '0' '0' (hexDigit (n / 16)) (hexDigit n) = some n ∧
    0x20 ≤ (hexDigit (n / 16)).toNat ∧ 0x20 ≤ (hexDigit n).toNat := by
  decide +kernel

/-- Every character is written in one of these ways. -/
theorem escaped_escapedChar (c : Char) : Escaped c (escapedChar c) := by
  have hchar : ∀ {n : Nat} {d : Char}, d.toNat = n → c.toNat = n → some d = some c := fun hd hc =>
    congrArg some (Char.toNat_inj.1 (hd.trans hc.symm))
  unfold escapedChar
  split
  · rename_i h
    subst h
    exact .short (by decide) (by decide) rfl
  split
  · rename_i h
    subst h
    exact .short (by decide) (by decide) rfl
  split
  · rename_i h
    exact .short (by decide) (by decide) (hchar rfl h)
  split
  · rename_i h
    exact .short (by decide) (by decide) (hchar rfl h)
  split
  · rename_i h
    exact .short (by decide) (by decide) (hchar rfl h)
  split
  · rename_i h
    exact .short (by decide) (by decide) (hchar rfl h)
  split
  · rename_i h
    exact .short (by decide) (by decide) (hchar rfl h)
  split
  · rename_i h
    obtain ⟨hstands, hhigh, hlow⟩ := hexQuad?_control c.toNat h
    exact .quad ⟨hhigh, hlow⟩ h hstands
  · rename_i hquote hmark _ _ _ _ _ hcontrol
    exact .plain hquote hmark (by omega)

/-- No control character is written. -/
theorem Escaped.printable {c : Char} {text : List Char} (h : Escaped c text) : ∀ d ∈ text, 0x20 ≤ d.toNat := by
  have hmark : 0x20 ≤ '\\'.toNat ∧ 0x20 ≤ 'u'.toNat ∧ 0x20 ≤ '0'.toNat := by decide
  cases h with
  | plain _ _ printable => simpa using printable
  | short _ printable => simpa [hmark] using printable
  | quad printable => simpa [hmark] using printable

/-- Four characters that denote a number are digits. -/
theorem all_isSome_of_hexQuad? {a b c d : Char} {n : Nat} (h : hexQuad? a b c d = some n) :
    [a, b, c, d].all (fun digit => (hexValue? digit).isSome) = true := by
  simp only [hexQuad?, Option.bind_eq_bind, Option.bind_eq_some_iff] at h
  obtain ⟨_, ha, _, hb, _, hc, _, hd, -⟩ := h
  simp [ha, hb, hc, hd]

/-- What is written of a character is read as it is written. -/
theorem Escaped.readLiteral_append {c : Char} {text : List Char} (h : Escaped c text) (rest : List Char) :
    readLiteral (text ++ rest) = (readLiteral rest).map fun (literal, rest) => (text ++ literal, rest) := by
  cases h with
  | plain quote mark printable =>
    have hcontrol : ¬ c.toNat < 0x20 := by omega
    simp [readLiteral, mark, hcontrol]
  | short letter _ stands => simp [readLiteral, letter, stands]
  | quad _ _ stands =>
    simp only [List.cons_append, List.nil_append, readLiteral, all_isSome_of_hexQuad? stands, if_true]

/-- What is written of a character stands for it. -/
theorem Escaped.unescape?_append {c : Char} {text : List Char} (h : Escaped c text) (rest : List Char) :
    unescape? (text ++ rest) = (unescape? rest).map (c :: ·) := by
  have hmap : (unescape? rest).map (c :: ·) = (unescape? rest).bind fun cs => some (c :: cs) := Option.map_eq_bind
  rw [hmap]
  cases h with
  | plain _ mark => simp [unescape?, mark]
  | short letter _ stands => simp [unescape?, letter, stands]
  | quad _ control stands =>
    -- A control character is far below the surrogates.
    have hlow : isLowSurrogate c.toNat = false := by
      rw [isLowSurrogate, Bool.and_eq_false_iff, decide_eq_false_iff_not]
      omega
    have hhigh : isHighSurrogate c.toNat = false := by
      rw [isHighSurrogate, Bool.and_eq_false_iff, decide_eq_false_iff_not]
      omega
    simp [unescape?, stands, hlow, hhigh]

/-- What a text is written as between quotation marks. -/
def escaped (s : String) : List Char :=
  s.toList.flatMap escapedChar

/-- No control character is written of a text, whatever it is. -/
theorem printable_escaped (s : String) : ∀ c ∈ escaped s, 0x20 ≤ c.toNat := by
  intro c hc
  obtain ⟨d, -, hc⟩ := List.mem_flatMap.1 hc
  exact (escaped_escapedChar d).printable c hc

theorem printable_stringText (s : String) : ∀ c ∈ stringText s, 0x20 ≤ c.toNat := by
  have hquote : 0x20 ≤ '"'.toNat := by decide
  rw [stringText, List.forall_mem_append, List.forall_mem_cons, List.forall_mem_singleton]
  exact ⟨⟨hquote, printable_escaped s⟩, hquote⟩

/-- A text ends at the quotation mark behind it and at none within. -/
theorem readLiteral_escaped (s : String) (rest : List Char) :
    readLiteral (escaped s ++ '"' :: rest) = some (escaped s, rest) := by
  unfold escaped
  induction s.toList with
  | nil => rfl
  | cons c cs ih =>
    rw [List.flatMap_cons, List.append_assoc, (escaped_escapedChar c).readLiteral_append, ih]
    rfl

/-- What is written of a text stands for it. -/
theorem unescape?_escaped (s : String) : unescape? (escaped s) = some s.toList := by
  unfold escaped
  induction s.toList with
  | nil => rfl
  | cons c cs ih =>
    rw [List.flatMap_cons, (escaped_escapedChar c).unescape?_append, ih]
    rfl

theorem stringText_append (s : String) (rest : List Char) :
    stringText s ++ rest = '"' :: (escaped s ++ '"' :: rest) := by
  simp [stringText, escaped]

/-- What is no white space is not skipped. -/
theorem skipSpace_cons {c : Char} (h : isSpace c = false) (rest : List Char) : skipSpace (c :: rest) = c :: rest := by
  simp [skipSpace, h]

/-- A text is read as it is written, whatever follows. -/
theorem readValue_stringText (fuel : Nat) (s : String) (rest : List Char) :
    Source.readValue (fuel + 1) (stringText s ++ rest) = some (.str (escaped s), rest) := by
  have hquote := skipSpace_cons (show isSpace '"' = false from rfl)
  simp only [Source.readValue, stringText_append, hquote, readLiteral_escaped, Option.map_some]

/-! ## Objects of texts -/

/-- The members of an object that has only texts. -/
def textMembers (entries : List (String × String)) : List (String × Json) :=
  entries.map fun (key, value) => (key, .str value)

/-- No control character is written of an object of texts. -/
theorem printable_compact (entries : List (String × String)) :
    ∀ c ∈ compactChars (.obj (textMembers entries)), 0x20 ≤ c.toNat := by
  have hsigns : 0x20 ≤ ':'.toNat ∧ 0x20 ≤ ','.toNat ∧ 0x20 ≤ '\x7b'.toNat ∧ 0x20 ≤ '\x7d'.toNat := by decide
  obtain ⟨hcolon, hcomma, hopening, hclosing⟩ := hsigns
  have hmembers : ∀ c ∈ compactMembers (textMembers entries), 0x20 ≤ c.toNat := by
    induction entries with
    | nil => exact fun c hc => nomatch hc
    | cons entry entries ih =>
      have hentry : ∀ c ∈ stringText entry.1 ++ ':' :: stringText entry.2, 0x20 ≤ c.toNat := by
        rw [List.forall_mem_append, List.forall_mem_cons]
        exact ⟨printable_stringText _, hcolon, printable_stringText _⟩
      cases entries with
      | nil => exact hentry
      | cons next entries =>
        have hcons : compactMembers (textMembers (entry :: next :: entries)) =
            (stringText entry.1 ++ ':' :: stringText entry.2) ++ ',' :: compactMembers (textMembers (next :: entries)) := by
          simp [textMembers, compactMembers, compactChars]
        rw [hcons, List.forall_mem_append, List.forall_mem_cons]
        exact ⟨hentry, hcomma, ih⟩
  rw [compactChars, List.forall_mem_append, List.forall_mem_cons, List.forall_mem_singleton]
  exact ⟨⟨hopening, hmembers⟩, hclosing⟩

end SheetQuery.Json
