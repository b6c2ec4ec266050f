import SheetQuery.Proofs.Text.Utf8
import SheetQuery.Text.Lowercase

/-!
# Text in lower case

The lower case of a character is in lower case (`flatMap_lowercase`): no shift of the table lands on a code point that another
one moves. What stands before the small letters of the ASCII set has no other character that becomes it.
-/

namespace SheetQuery.Text

namespace Shift

/-- Where a shift lands from a code point that it moves. -/
def landing (s : Shift) (n : Nat) : Nat :=
  (n + s.distance).toNat

/-- Whether a shift lands beside the code points that another one moves: outside their bounds, or between them. -/
def landsBeside (s t : Shift) : Bool :=
  !(t.first.ble (s.landing s.last) && (s.landing s.first).ble t.last)
    || (s.first == s.last || s.step % t.step == 0) && (s.landing s.first - t.first) % t.step != 0

variable {s t : Shift} {n : Nat}

theorem covers_iff : s.covers n = true ↔ s.first ≤ n ∧ n ≤ s.last ∧ s.step ∣ n - s.first := by
  simp [covers, Nat.dvd_iff_mod_eq_zero, and_assoc]

/-- A shift that lands beside another lands on no code point that the other moves. -/
theorem covers_landing (hpos : 0 < s.landing s.first) (hs : s.covers n = true) (h : s.landsBeside t = true) :
    t.covers (s.landing n) = false := by
  rw [Bool.eq_false_iff]
  intro ht
  obtain ⟨hfirst, hlast, hstep⟩ := covers_iff.1 hs
  obtain ⟨htfirst, htlast, htstep⟩ := covers_iff.1 ht
  have hn : s.landing n = s.landing s.first + (n - s.first) := by
    unfold landing at hpos ⊢
    omega
  have hend : s.landing s.last = s.landing s.first + (s.last - s.first) := by
    unfold landing at hpos ⊢
    omega
  have hmeets : t.first ≤ s.landing s.last ∧ s.landing s.first ≤ t.last := by omega
  simp only [landsBeside, Bool.or_eq_true, Bool.not_eq_true', Bool.eq_false_iff, Bool.and_eq_true, Nat.ble_eq, bne_iff_ne,
    ne_eq, beq_iff_eq, ← Nat.dvd_iff_mod_eq_zero] at h
  rcases h with hoff | ⟨hsteps, hbetween⟩
  · exact hoff hmeets
  · -- All landings of `s` are a multiple of the step of `t` apart, so they are between the code points of `t` if the first is.
    have hforward : t.step ∣ n - s.first := by
      rcases hsteps with hone | hsteps
      · obtain rfl : n = s.first := by omega
        simp
      · exact Nat.dvd_trans hsteps hstep
    have hafter : t.first ≤ s.landing s.first := by
      refine Nat.le_of_not_lt fun hbefore => hbetween ?_
      rw [Nat.sub_eq_zero_of_le (by omega)]
      exact Nat.dvd_zero _
    have hsplit : s.landing n - t.first = (s.landing s.first - t.first) + (n - s.first) := by omega
    rw [hsplit, Nat.dvd_add_left hforward] at htstep
    exact hbetween htstep

/-- A code point stays where it is, or it lands where a shift of the table takes it. -/
theorem image_cases (shifts : List Shift) (n : Nat) :
    (∀ s ∈ shifts, s.covers n = false) ∧ image shifts n = n ∨
      ∃ s ∈ shifts, s.covers n = true ∧ image shifts n = s.landing n := by
  unfold image
  cases h : shifts.find? (·.covers n) with
  | none =>
    refine .inl ⟨fun s hs => ?_, rfl⟩
    simpa using List.find?_eq_none.1 h s hs
  | some s =>
    have hcovers := List.find?_some h
    exact .inr ⟨s, List.mem_of_find?_eq_some h, hcovers, rfl⟩

theorem image_of_forall {shifts : List Shift} (h : ∀ s ∈ shifts, s.covers n = false) : image shifts n = n := by
  rcases image_cases shifts n with ⟨-, himage⟩ | ⟨s, hs, hcovers, -⟩
  · exact himage
  · rw [h s hs] at hcovers
    nomatch hcovers

end Shift

open Shift

/-! ## The table -/

/-- The one code point whose lower case is not in the table, as a shift that moves nothing else. -/
def dottedCapital : Shift :=
  ⟨0x130, 0x130, 1, 0⟩

/-- No shift of the table lands on a code point that a shift of the table moves. -/
theorem lowercaseShifts_landBeside :
    (lowercaseShifts.all fun s => (dottedCapital :: lowercaseShifts).all s.landsBeside) = true := by
  decide +kernel

/-- The lower case of a character is a character, and none that stands before the small letters of the ASCII set. -/
theorem lowercaseShifts_bounds : ∀ s ∈ lowercaseShifts, 0x61 ≤ s.landing s.first ∧
    (s.landing s.last < 0xd800 ∨ 0xe000 ≤ s.landing s.first ∧ s.landing s.last < 0x110000) := by
  decide +kernel

/-- Where a shift of the table lands, no shift of the table goes on, and the capital with a dot is not there. -/
theorem covers_landing_lowercase {s : Shift} (hs : s ∈ lowercaseShifts) {n : Nat} (hn : s.covers n = true) :
    ∀ t ∈ dottedCapital :: lowercaseShifts, t.covers (s.landing n) = false := by
  intro t ht
  have hbeside := List.all_eq_true.1 (List.all_eq_true.1 lowercaseShifts_landBeside s hs) t ht
  have hpos : 0x61 ≤ s.landing s.first := (lowercaseShifts_bounds s hs).1
  exact covers_landing (by omega) hn hbeside

/-- Where a shift of the table lands, there is a character behind the capitals of the ASCII set. -/
theorem landing_lowercase {s : Shift} (hs : s ∈ lowercaseShifts) {n : Nat} (hn : s.covers n = true) :
    0x61 ≤ s.landing n ∧ (s.landing n).isValidChar := by
  obtain ⟨hleast, hvalid⟩ := lowercaseShifts_bounds s hs
  obtain ⟨hfirst, hlast, -⟩ := covers_iff.1 hn
  have hbetween : s.landing s.first ≤ s.landing n ∧ s.landing n ≤ s.landing s.last := by
    unfold landing
    omega
  unfold Nat.isValidChar
  omega

/-! ## One character -/

/-- What holds of the numbers of the ASCII set, one by one, holds of its characters. -/
theorem ascii_forall {P : Char → Prop} (h : ∀ n < 0x80, P (Char.ofNat n)) (c : Char) (hc : c.toNat < 0x80) : P c := by
  have hchar := h c.toNat hc
  rwa [Char.ofNat_toNat] at hchar

/-- Inside the ASCII set the lower case of a character stays in the set, and what becomes another character becomes a small
letter. -/
theorem toLower_ascii : ∀ c : Char, c.toNat < 0x80 → c.toLower.toNat < 0x80 ∧ c.toLower.toLower = c.toLower ∧
    (c.toLower = c ∨ 0x41 ≤ c.toNat ∧ c.toNat ≤ 0x5a ∧ 0x61 ≤ c.toLower.toNat) := by
  refine ascii_forall ?_
  decide

theorem lowercase_of_lt {c : Char} (h : c.toNat < 0x80) : lowercase c = [c.toLower] :=
  if_pos h

/-- A character that no shift of the table moves is its own lower case, unless it is the capital with a dot. -/
theorem lowercase_of_forall {c : Char} (h : ∀ t ∈ dottedCapital :: lowercaseShifts, t.covers c.toNat = false) :
    lowercase c = [c] := by
  by_cases hascii : c.toNat < 0x80
  · rw [lowercase_of_lt hascii]
    rcases (toLower_ascii c hascii).2.2 with hsame | ⟨hfirst, hlast, -⟩
    · rw [hsame]
    · have hcapital := h ⟨0x41, 0x5a, 1, 32⟩ (.tail _ (.head _))
      rw [Bool.eq_false_iff, ne_eq, covers_iff] at hcapital
      exact absurd ⟨hfirst, hlast, Nat.one_dvd _⟩ hcapital
  · have hdotted : c.toNat ≠ 0x130 := by
      intro hc
      have hcovers := h dottedCapital List.mem_cons_self
      rw [hc] at hcovers
      nomatch hcovers
    rw [lowercase, if_neg hascii, if_neg hdotted, image_of_forall fun t ht => h t (List.mem_cons_of_mem _ ht),
      Char.ofNat_toNat]

/-- The lower case of a character: of the ASCII set, with a dot, of itself, or where a shift of the table lands. -/
theorem lowercase_cases (c : Char) :
    c.toNat < 0x80 ∧ lowercase c = [c.toLower] ∨ lowercase c = ['i', Char.ofNat 0x307] ∨ lowercase c = [c] ∨
      ∃ s ∈ lowercaseShifts, s.covers c.toNat = true ∧ ∃ d, lowercase c = [d] ∧ d.toNat = s.landing c.toNat := by
  by_cases hascii : c.toNat < 0x80
  · exact .inl ⟨hascii, lowercase_of_lt hascii⟩
  right
  by_cases hdotted : c.toNat = 0x130
  · left
    rw [lowercase, if_neg hascii, if_pos hdotted]
  right
  have himage : lowercase c = [Char.ofNat (image lowercaseShifts c.toNat)] := by
    rw [lowercase, if_neg hascii, if_neg hdotted]
  rcases image_cases lowercaseShifts c.toNat with ⟨-, hsame⟩ | ⟨s, hs, hcovers, hlanding⟩
  · left
    rw [himage, hsame, Char.ofNat_toNat]
  · right
    refine ⟨s, hs, hcovers, _, himage, ?_⟩
    rw [hlanding, toNat_charOfNat, if_pos (landing_lowercase hs hcovers).2]

theorem lowercase_ne_nil (c : Char) : lowercase c ≠ [] := by
  unfold lowercase
  split
  · simp
  · split <;> simp

/-- The lower case of a character is in lower case. -/
theorem lowercase_lowercase (c : Char) : (lowercase c).flatMap lowercase = lowercase c := by
  rcases lowercase_cases c with ⟨hascii, hc⟩ | hc | hc | ⟨s, hs, hcovers, d, hc, hd⟩
  · obtain ⟨hlt, hagain, -⟩ := toLower_ascii c hascii
    rw [hc, List.flatMap_singleton, lowercase_of_lt hlt, hagain]
  · rw [hc]
    decide
  · rw [hc, List.flatMap_singleton, hc]
  · rw [hc, List.flatMap_singleton, lowercase_of_forall]
    rw [hd]
    exact covers_landing_lowercase hs hcovers

/-- What stands before the small letters of the ASCII set is the lower case of itself only. -/
theorem eq_of_mem_lowercase {c d : Char} (hd : d.toNat < 0x61) (h : d ∈ lowercase c) : c = d := by
  rcases lowercase_cases c with ⟨hascii, hc⟩ | hc | hc | ⟨s, hs, hcovers, e, hc, he⟩
  · rw [hc, List.mem_singleton] at h
    rcases (toLower_ascii c hascii).2.2 with hsame | ⟨-, -, hsmall⟩
    · rw [h, hsame]
    · rw [← h] at hsmall
      omega
  · rw [hc] at h
    simp only [List.mem_cons, List.not_mem_nil, or_false] at h
    rcases h with rfl | rfl <;> exact absurd hd (by decide)
  · rw [hc, List.mem_singleton] at h
    exact h.symm
  · rw [hc, List.mem_singleton] at h
    have hleast := (landing_lowercase hs hcovers).1
    rw [← he, ← h] at hleast
    omega

/-- The case of a letter of the ASCII set is lost. -/
theorem lowercase_toLower (c : Char) : lowercase c.toLower = lowercase c := by
  by_cases hascii : c.toNat < 0x80
  · obtain ⟨hlt, hagain, -⟩ := toLower_ascii c hascii
    rw [lowercase_of_lt hlt, lowercase_of_lt hascii, hagain]
  · have hsame : c.toLower = c := by
      have hcapital : ¬(c ≥ 'A' ∧ c ≤ 'Z') := by
        rintro ⟨-, hz⟩
        have hc : c.toNat ≤ 0x5a := hz
        omega
      exact dif_neg hcapital
    rw [hsame]

/-! ## Texts -/

/-- A text in lower case is its own lower case. -/
theorem flatMap_lowercase (text : List Char) : (text.flatMap lowercase).flatMap lowercase = text.flatMap lowercase := by
  rw [List.flatMap_assoc]
  exact congrArg (List.flatMap · text) (funext lowercase_lowercase)

end SheetQuery.Text
