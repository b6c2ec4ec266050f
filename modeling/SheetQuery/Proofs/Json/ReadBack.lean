import SheetQuery.Proofs.Decimal.Integer
import SheetQuery.Proofs.Json.Text

/-!
# Values read back

The compact text of a value is read as it is written, whatever follows, because the value says in its first character which of
its forms it has, and none of its parts goes on into what follows. Only a number does not show where it ends, so that what
follows a value must not begin like more of a number (`Boundary`). What is written then stands for the value that it was
written of, if that has no key twice, is not too deep, and has no number that is not read back (`Legible`, `read?_compact`).
-/

namespace SheetQuery

open Decimal

/-! ## Numbers -/

/-- Whether the text of a number stands for that number. Of a floating-point number this says that no other is nearer to its
shortest decimal. -/
structure Number.ReadsBack (n : Number) : Prop where
  chars : ∀ c ∈ Json.numberText n, Json.isNumberChar c = true
  denotes : ∃ literal, Json.literal? (Json.numberText n) = some literal ∧ literal.number? = some n

namespace Json

/-- The first digit of a positive number is not zero. -/
theorem head?_toDigits {n : Nat} (h : 0 < n) : (Nat.toDigits 10 n).head? ≠ some '0' := by
  induction n using Nat.strongRecOn with
  | ind n ih =>
    by_cases hlt : n < 10
    · have hdigit : ∀ m < 10, 0 < m → [Nat.digitChar m].head? ≠ some '0' := by decide
      rw [Nat.toDigits_of_lt_base hlt]
      exact hdigit n hlt h
    · rw [Nat.toDigits_of_base_le (by decide) (by omega), List.head?_append_of_ne_nil _ Nat.toDigits_ne_nil]
      exact ih (n / 10) (by omega) (by omega)

/-- The digits of a number are as they must be before the point. -/
theorem isWhole_toDigits (n : Nat) : isWhole (Nat.toDigits 10 n) = true := by
  rcases Nat.eq_zero_or_pos n with rfl | hpos
  · rfl
  · have hhead := head?_toDigits hpos
    have hne : Nat.toDigits 10 n ≠ [] := Nat.toDigits_ne_nil
    unfold isWhole
    split <;> simp_all

theorem natOfDigits_toDigits (n : Nat) : natOfDigits (Nat.toDigits 10 n) = n := by
  have hvalue : Nat.ofDigitChars 10 (Nat.toDigits 10 n) 0 = n := Nat.ofDigitChars_ten_toDigits
  simpa only [natOfDigits, Nat.ofDigitChars, Nat.mul_comm] using hvalue

section Digits

variable {digits : List Char} (h : IsDigits digits) (hwhole : isWhole digits = true)
include h hwhole

/-- Digits alone are a number without a fraction. -/
theorem literal?_digits : literal? digits = some ⟨false, digits, none, none⟩ := by
  have htake : digits.takeWhile Char.isDigit = digits := List.takeWhile_eq_self_iff.2 h.digits
  have hdrop : digits.dropWhile Char.isDigit = [] := List.dropWhile_eq_nil_iff.2 h.digits
  obtain ⟨c, rest, rfl, hc⟩ := h.exists_cons
  have hminus : c ≠ '-' := by rintro rfl; exact absurd hc (by decide)
  unfold literal?
  split
  · rename_i heq
    split at heq
    · simp_all
    · obtain ⟨rfl, rfl⟩ := Prod.mk.inj heq
      simp [htake, hdrop, hwhole, exponent?]

/-- Digits after a minus sign are a negative number without a fraction. -/
theorem literal?_minus_digits : literal? ('-' :: digits) = some ⟨true, digits, none, none⟩ := by
  have htake : digits.takeWhile Char.isDigit = digits := List.takeWhile_eq_self_iff.2 h.digits
  have hdrop : digits.dropWhile Char.isDigit = [] := List.dropWhile_eq_nil_iff.2 h.digits
  simp [literal?, htake, hdrop, hwhole, exponent?]

end Digits

/-- Every integer is read back. -/
theorem readsBack_int (i : Int) (fits : FitsInteger i) : (Number.int i fits).ReadsBack := by
  have hchars : ∀ c ∈ Nat.toDigits 10 i.natAbs, isNumberChar c = true := by
    intro c hc
    simp [isNumberChar, isDigit_of_mem_toDigits hc]
  have hdigits := isDigits_toDigits i.natAbs
  have hwhole := isWhole_toDigits i.natAbs
  have htext := toList_toString i
  by_cases hi : i < 0
  · rw [if_pos hi] at htext
    refine ⟨?_, _, (congrArg literal? htext).trans (literal?_minus_digits hdigits hwhole), ?_⟩
    · rw [numberText, htext, List.forall_mem_cons]
      exact ⟨rfl, hchars⟩
    · have hvalue : -(i.natAbs : Int) = i := by omega
      have hne : i.natAbs ≠ 0 := by omega
      simp only [Literal.number?, natOfDigits_toDigits, hvalue, if_true]
      exact dif_pos ⟨fits, fun hzero => hne hzero.2⟩
  · rw [if_neg hi] at htext
    refine ⟨?_, _, (congrArg literal? htext).trans (literal?_digits hdigits hwhole), ?_⟩
    · rw [numberText, htext]
      exact hchars
    · have hvalue : (i.natAbs : Int) = i := by omega
      simp only [Literal.number?, natOfDigits_toDigits, hvalue, Bool.false_eq_true, if_false]
      exact dif_pos ⟨fits, fun hzero => nomatch hzero.1⟩

/-! ## Values as they are written -/

mutual

/-- A value as it is written. -/
def written : Json → Source
  | .null => .null
  | .bool b => .bool b
  | .num n => .num (numberText n)
  | .str s => .str (escaped s)
  | .arr items => .arr (writtenItems items)
  | .obj members => .obj (writtenMembers members)

/-- Items as they are written. -/
def writtenItems : List Json → List Source
  | [] => []
  | item :: items => written item :: writtenItems items

/-- Members as they are written. -/
def writtenMembers : List (String × Json) → List (List Char × Source)
  | [] => []
  | (key, value) :: members => (escaped key, written value) :: writtenMembers members

end

/-- No member is left out or doubled. -/
theorem length_writtenMembers (members : List (String × Json)) : (writtenMembers members).length = members.length := by
  induction members with
  | nil => rfl
  | cons member members ih => rw [writtenMembers, List.length_cons, ih, List.length_cons]

/-- Whether a value of at most so many levels can be read back: no key comes twice in an object, and every number is read
back. -/
inductive Legible : Nat → Json → Prop where
  | null {depth : Nat} : Legible depth .null
  | bool {depth : Nat} {b : Bool} : Legible depth (.bool b)
  | num {depth : Nat} {n : Number} (readsBack : n.ReadsBack) : Legible depth (.num n)
  | str {depth : Nat} {s : String} : Legible depth (.str s)
  | arr {depth : Nat} {items : List Json} (items_legible : ∀ item ∈ items, Legible depth item) :
    Legible (depth + 1) (.arr items)
  | obj {depth : Nat} {members : List (String × Json)} (nodup : (members.map Prod.fst).Nodup)
    (values_legible : ∀ member ∈ members, Legible depth member.2) : Legible (depth + 1) (.obj members)

variable {depth : Nat} {value : Json}

/-! ## Reading what is written -/

/-- Whether a text does not begin like more of a number. -/
def Boundary (rest : List Char) : Prop :=
  ∀ c ∈ rest.head?, isNumberChar c = false

theorem boundary_cons {c : Char} (h : isNumberChar c = false) (rest : List Char) : Boundary (c :: rest) :=
  fun _ hd => Option.mem_some.1 hd ▸ h

/-- Whether the text of a value is read as it is written, whatever follows behind a boundary. Each character gives room for
two steps. -/
def Scans (value : Json) : Prop :=
  ∀ fuel rest, 2 * (compactChars value).length ≤ fuel → Boundary rest →
    Source.readValue fuel (compactChars value ++ rest) = some (written value, rest)

/-- A digit is none of the other characters. -/
theorem ne_of_isDigit {c d : Char} (hc : c.isDigit = true) (hd : d.isDigit = false) : c ≠ d := by
  rintro rfl
  rw [hc] at hd
  nomatch hd

/-- The text of a number begins with a minus sign or a digit. -/
theorem exists_cons_of_literal? {text : List Char} {literal : Literal} (h : literal? text = some literal) :
    ∃ c rest, text = c :: rest ∧ (c = '-' ∨ c.isDigit = true) := by
  cases text with
  | nil => nomatch h
  | cons c rest =>
    refine ⟨c, rest, rfl, ?_⟩
    by_contra hc
    rw [not_or] at hc
    have hwhole : (c :: rest).takeWhile Char.isDigit = [] := by
      rw [List.takeWhile_cons, if_neg hc.2]
    simp [literal?, hc.1, hwhole, isWhole] at h

/-- What begins with a minus sign or a digit is read as a number. -/
theorem readValue_number (fuel : Nat) {c : Char} (hc : c = '-' ∨ c.isDigit = true) (text : List Char) :
    Source.readValue (fuel + 1) (c :: text) =
      if (literal? ((c :: text).takeWhile isNumberChar)).isSome then
        some (.num ((c :: text).takeWhile isNumberChar), (c :: text).dropWhile isNumberChar)
      else none := by
  have hother : ∀ {d : Char}, d ≠ '-' → d.isDigit = false → c ≠ d := by
    rintro d hminus hdigit rfl
    exact hc.elim hminus fun hc => ne_of_isDigit hc hdigit rfl
  have hspace : skipSpace (c :: text) = c :: text := by
    refine skipSpace_cons ?_ text
    simp only [isSpace, Bool.or_eq_false_iff, beq_eq_false_iff_ne]
    exact ⟨⟨⟨hother (by decide) rfl, hother (by decide) rfl⟩, hother (by decide) rfl⟩, hother (by decide) rfl⟩
  rw [Source.readValue, hspace]
  split
  · rename_i heq
    exact absurd heq (List.cons_ne_nil c text)
  all_goals first
    | (rename_i heq
       exact absurd (List.cons.inj heq).1 (hother (by decide) rfl))
    | skip
  · rename_i heq
    obtain ⟨rfl, rfl⟩ := List.cons.inj heq
    rfl

/-- A number is read up to its boundary. -/
theorem scans_num {n : Number} (h : n.ReadsBack) : Scans (.num n) := by
  intro fuel rest hfuel hrest
  obtain ⟨literal, hliteral, -⟩ := h.denotes
  obtain ⟨c, text, htext, hc⟩ := exists_cons_of_literal? hliteral
  have hchars : ∀ d ∈ c :: text, isNumberChar d = true := htext ▸ h.chars
  have htake : ((c :: text) ++ rest).takeWhile isNumberChar = c :: text := by
    rw [List.takeWhile_append_of_pos hchars]
    cases rest with
    | nil => exact List.append_nil _
    | cons d rest => rw [List.takeWhile_cons, hrest d rfl]; exact List.append_nil _
  have hdrop : ((c :: text) ++ rest).dropWhile isNumberChar = rest := by
    rw [List.dropWhile_append_of_pos hchars]
    cases rest with
    | nil => rfl
    | cons d rest => rw [List.dropWhile_cons, hrest d rfl]; rfl
  rw [compactChars, htext] at hfuel ⊢
  obtain ⟨fuel, rfl⟩ : ∃ fuel', fuel = fuel' + 1 := ⟨fuel - 1, by simp at hfuel; omega⟩
  rw [htext] at hliteral
  rw [List.cons_append] at htake hdrop ⊢
  rw [readValue_number fuel hc, htake, hdrop, hliteral, written, htext]
  rfl

/-- A text is read up to the quotation mark behind it. -/
theorem scans_str (s : String) : Scans (.str s) := by
  intro fuel rest hfuel _
  obtain ⟨fuel, rfl⟩ : ∃ fuel', fuel = fuel' + 1 := ⟨fuel - 1, by simp [compactChars, stringText] at hfuel; omega⟩
  exact readValue_stringText fuel s rest

/-- A value begins with a character that is no white space and closes nothing. -/
theorem Legible.exists_cons (h : Legible depth value) :
    ∃ c rest, compactChars value = c :: rest ∧ isSpace c = false ∧ c ≠ ']' := by
  cases h with
  | null => exact ⟨_, _, rfl, rfl, by decide⟩
  | @bool _ b => cases b <;> exact ⟨_, _, rfl, rfl, by decide⟩
  | num readsBack =>
    obtain ⟨literal, hliteral, -⟩ := readsBack.denotes
    obtain ⟨c, text, htext, rfl | hc⟩ := exists_cons_of_literal? hliteral
    · exact ⟨_, _, htext, rfl, by decide⟩
    · refine ⟨c, text, htext, ?_, ?_⟩
      · simp only [isSpace, Bool.or_eq_false_iff, beq_eq_false_iff_ne]
        refine ⟨⟨⟨?_, ?_⟩, ?_⟩, ?_⟩ <;> exact ne_of_isDigit hc rfl
      · exact ne_of_isDigit hc rfl
  | str => exact ⟨_, _, rfl, rfl, by decide⟩
  | arr => exact ⟨_, _, rfl, rfl, by decide⟩
  | obj => exact ⟨_, _, rfl, rfl, by decide⟩

theorem compactItems_cons (item next : Json) (items : List Json) :
    compactItems (item :: next :: items) = compactChars item ++ ',' :: compactItems (next :: items) := by
  simp [compactItems]

theorem compactMembers_cons (member next : String × Json) (members : List (String × Json)) :
    compactMembers (member :: next :: members) =
      stringText member.1 ++ ':' :: compactChars member.2 ++ ',' :: compactMembers (next :: members) := by
  simp [compactMembers]

/-- The items of an array are read one by one, up to the bracket behind them. -/
theorem readItems_compact {items : List Json} (h : ∀ item ∈ items, Scans item) {item : Json} (hitem : Scans item)
    {fuel : Nat} (hfuel : 2 * (compactItems (item :: items)).length + 1 ≤ fuel) (rest : List Char) :
    Source.readItems fuel (compactItems (item :: items) ++ ']' :: rest) = some (writtenItems (item :: items), rest) := by
  obtain ⟨fuel, rfl⟩ := Nat.exists_eq_add_of_le' (Nat.le_of_add_left_le hfuel)
  induction items generalizing item fuel with
  | nil =>
    have hbracket := skipSpace_cons (show isSpace ']' = false from rfl) rest
    have hread := hitem fuel (']' :: rest) (by simpa [compactItems] using hfuel) (boundary_cons rfl rest)
    rw [compactItems, Source.readItems, hread]
    simp only [Option.bind_eq_bind, Option.bind_some, hbracket]
    rfl
  | cons next items ih =>
    rw [compactItems_cons, List.length_append, List.length_cons] at hfuel
    have hcomma := skipSpace_cons (show isSpace ',' = false from rfl)
    have hread := hitem fuel (',' :: (compactItems (next :: items) ++ ']' :: rest)) (by omega) (boundary_cons rfl _)
    obtain ⟨fuel, rfl⟩ : ∃ fuel', fuel = fuel' + 1 := ⟨fuel - 1, by omega⟩
    have hnext := ih (fun other hother => h other (List.mem_cons_of_mem _ hother)) (h next List.mem_cons_self) fuel (by omega)
    rw [compactItems_cons, List.append_assoc, List.cons_append, Source.readItems, hread]
    simp only [Option.bind_eq_bind, Option.bind_some, hcomma, hnext]
    rfl

section Member

variable {value : Json} (h : Scans value) (key : String) {fuel : Nat} (hfuel : 2 * (compactChars value).length ≤ fuel)
  (rest : List Char)
include h hfuel

/-- The last member is read up to the brace behind it. -/
theorem readMembers_last :
    Source.readMembers (fuel + 1) (stringText key ++ ':' :: compactChars value ++ '\x7d' :: rest) =
      some ([(escaped key, written value)], rest) := by
  have hquote := skipSpace_cons (show isSpace '"' = false from rfl)
  have hcolon := skipSpace_cons (show isSpace ':' = false from rfl)
  have hbrace := skipSpace_cons (show isSpace '\x7d' = false from rfl)
  have hread := h fuel ('\x7d' :: rest) hfuel (boundary_cons rfl rest)
  rw [List.append_assoc, stringText_append, List.cons_append, Source.readMembers]
  simp only [hquote, readLiteral_escaped, hcolon, hread, hbrace, Option.bind_eq_bind, Option.bind_some, Option.pure_def]

/-- A member is read up to the comma behind it, and then the others are. -/
theorem readMembers_next :
    Source.readMembers (fuel + 1) (stringText key ++ ':' :: compactChars value ++ ',' :: rest) =
      (Source.readMembers fuel rest).map fun (members, rest) => ((escaped key, written value) :: members, rest) := by
  have hquote := skipSpace_cons (show isSpace '"' = false from rfl)
  have hcolon := skipSpace_cons (show isSpace ':' = false from rfl)
  have hcomma := skipSpace_cons (show isSpace ',' = false from rfl)
  have hread := h fuel (',' :: rest) hfuel (boundary_cons rfl rest)
  rw [List.append_assoc, stringText_append, List.cons_append, Source.readMembers, Option.map_eq_bind]
  simp only [hquote, readLiteral_escaped, hcolon, hread, hcomma, Option.bind_eq_bind, Option.bind_some, Option.pure_def,
    Function.comp_def]

end Member

/-- The members of an object are read one by one, up to the brace behind them. -/
theorem readMembers_compact {members : List (String × Json)} (h : ∀ member ∈ members, Scans member.2)
    {member : String × Json} (hmember : Scans member.2) {fuel : Nat}
    (hfuel : 2 * (compactMembers (member :: members)).length + 1 ≤ fuel) (rest : List Char) :
    Source.readMembers fuel (compactMembers (member :: members) ++ '\x7d' :: rest) =
      some (writtenMembers (member :: members), rest) := by
  obtain ⟨fuel, rfl⟩ := Nat.exists_eq_add_of_le' (Nat.le_of_add_left_le hfuel)
  induction members generalizing member fuel with
  | nil =>
    have hlength : 2 * (compactChars member.2).length ≤ fuel := by
      simp only [compactMembers, List.length_append, List.length_cons] at hfuel
      omega
    exact readMembers_last hmember member.1 hlength rest
  | cons next members ih =>
    rw [compactMembers_cons, List.length_append, List.length_append, List.length_cons, List.length_cons] at hfuel
    have hnext := ih (fun other hother => h other (List.mem_cons_of_mem _ hother)) (h next List.mem_cons_self)
    obtain ⟨fuel, rfl⟩ : ∃ fuel', fuel = fuel' + 1 := ⟨fuel - 1, by omega⟩
    have hlength : 2 * (compactChars member.2).length ≤ fuel + 1 := by omega
    rw [compactMembers_cons, List.append_assoc, List.cons_append, readMembers_next hmember member.1 hlength,
      hnext fuel (by omega)]
    rfl

/-- A word is read letter by letter. -/
theorem scans_null : Scans .null := by
  intro fuel rest hfuel _
  obtain ⟨fuel, rfl⟩ := Nat.exists_eq_add_of_le' (Nat.le_trans (by decide : 1 ≤ 2 * (compactChars .null).length) hfuel)
  rfl

theorem scans_bool (b : Bool) : Scans (.bool b) := by
  intro fuel rest hfuel _
  have hroom : 1 ≤ 2 * (compactChars (.bool b)).length := by cases b <;> decide
  obtain ⟨fuel, rfl⟩ := Nat.exists_eq_add_of_le' (hroom.trans hfuel)
  cases b <;> rfl

/-- An array that is not closed at once has items. -/
theorem readValue_arr (fuel : Nat) {c : Char} (hspace : isSpace c = false) (hopen : c ≠ ']') (text : List Char) :
    Source.readValue (fuel + 1) ('[' :: c :: text) =
      (Source.readItems fuel (c :: text)).map fun (items, rest) => (.arr items, rest) := by
  have hbracket := skipSpace_cons (show isSpace '[' = false from rfl)
  rw [Source.readValue, hbracket]
  simp only [skipSpace_cons hspace]
  split
  · rename_i heq
    exact absurd (List.cons.inj heq).1 hopen
  · rfl

/-- An array is read if its items are. -/
theorem scans_arr {items : List Json} (h : ∀ item ∈ items, Scans item)
    (hfirst : ∀ item ∈ items, ∃ c rest, compactChars item = c :: rest ∧ isSpace c = false ∧ c ≠ ']') : Scans (.arr items) := by
  intro fuel rest hfuel _
  rw [compactChars, List.length_append, List.length_cons, List.length_singleton] at hfuel
  obtain ⟨fuel, rfl⟩ : ∃ fuel', fuel = fuel' + 1 := ⟨fuel - 1, by omega⟩
  rw [compactChars, List.append_assoc, List.cons_append, List.singleton_append]
  cases items with
  | nil => rfl
  | cons item items =>
    have hitems := readItems_compact (fun other hother => h other (List.mem_cons_of_mem _ hother)) (h item List.mem_cons_self)
      (show 2 * (compactItems (item :: items)).length + 1 ≤ fuel by omega) rest
    obtain ⟨c, text, htext, hspace, hopen⟩ := hfirst item List.mem_cons_self
    have hhead : ∃ text, compactItems (item :: items) ++ ']' :: rest = c :: text := by
      cases items with
      | nil => exact ⟨_, by rw [compactItems, htext, List.cons_append]⟩
      | cons next items => exact ⟨_, by rw [compactItems_cons, htext, List.cons_append, List.cons_append]⟩
    obtain ⟨text, htext⟩ := hhead
    rw [htext] at hitems ⊢
    rw [readValue_arr fuel hspace hopen, hitems]
    rfl

/-- The members of an object begin with the quotation mark of the first key. -/
theorem exists_compactMembers_eq (member : String × Json) (members : List (String × Json)) :
    ∃ text, compactMembers (member :: members) = '"' :: text := by
  cases members with
  | nil => exact ⟨_, rfl⟩
  | cons next members => exact ⟨_, compactMembers_cons member next members⟩

/-- An object is read if its values are. -/
theorem scans_obj {members : List (String × Json)} (h : ∀ member ∈ members, Scans member.2) : Scans (.obj members) := by
  intro fuel rest hfuel _
  rw [compactChars, List.length_append, List.length_cons, List.length_singleton] at hfuel
  obtain ⟨fuel, rfl⟩ : ∃ fuel', fuel = fuel' + 1 := ⟨fuel - 1, by omega⟩
  rw [compactChars, List.append_assoc, List.cons_append, List.singleton_append]
  cases members with
  | nil => rfl
  | cons member members =>
    have hmembers := readMembers_compact (fun other hother => h other (List.mem_cons_of_mem _ hother))
      (h member List.mem_cons_self) (show 2 * (compactMembers (member :: members)).length + 1 ≤ fuel by omega) rest
    obtain ⟨text, htext⟩ := exists_compactMembers_eq member members
    rw [htext, List.cons_append] at hmembers ⊢
    exact congrArg (Option.map fun (members, rest) => (Source.obj members, rest)) hmembers

/-- A value is read as it is written, whatever follows. -/
theorem Legible.scans (h : Legible depth value) : Scans value := by
  induction h with
  | null => exact scans_null
  | bool => exact scans_bool _
  | num readsBack => exact scans_num readsBack
  | str => exact scans_str _
  | arr items_legible ih => exact scans_arr ih fun item hitem => (items_legible item hitem).exists_cons
  | obj nodup values_legible ih => exact scans_obj ih

/-- White space is no more of a number. -/
theorem boundary_of_space {gap : List Char} (h : ∀ c ∈ gap, isSpace c = true) : Boundary gap := by
  intro c hc
  have hspace := h c (List.mem_of_mem_head? hc)
  simp only [isSpace, Bool.or_eq_true, beq_iff_eq] at hspace
  rcases hspace with ((rfl | rfl) | rfl) | rfl <;> rfl

/-- A text that is a value, with white space behind it, is read as it is written. -/
theorem Legible.sourceRead? (h : Legible depth value) {gap : List Char} (hgap : ∀ c ∈ gap, isSpace c = true) :
    Source.read? (String.ofList (compactChars value ++ gap)) = some (written value) := by
  have hroom : 2 * (compactChars value).length ≤ 2 * (compactChars value ++ gap).length + 2 := by
    rw [List.length_append]
    omega
  have hend : skipSpace gap = [] := List.dropWhile_eq_nil_iff.2 hgap
  simp only [Source.read?, String.toList_ofList, h.scans _ gap hroom (boundary_of_space hgap), hend, List.isEmpty_nil, if_true]

/-! ## What is written -/

theorem ofItems?_written {items : List Json} (h : ∀ item ∈ items, ofSource? depth (written item) = some item) :
    ofItems? depth (writtenItems items) = some items := by
  induction items with
  | nil => rfl
  | cons item items ih =>
    rw [writtenItems, ofItems?, h item List.mem_cons_self, ih fun other hother => h other (List.mem_cons_of_mem _ hother)]
    rfl

theorem ofMembers?_written {members : List (String × Json)}
    (h : ∀ member ∈ members, ofSource? depth (written member.2) = some member.2) :
    ofMembers? depth (writtenMembers members) = some members := by
  induction members with
  | nil => rfl
  | cons member members ih =>
    rw [writtenMembers, ofMembers?, unescape?_escaped, h member List.mem_cons_self,
      ih fun other hother => h other (List.mem_cons_of_mem _ hother)]
    simp

/-- What is written of a value stands for it. -/
theorem Legible.ofSource?_written (h : Legible depth value) : ofSource? depth (written value) = some value := by
  induction h with
  | null => rw [written, ofSource?]
  | bool => rw [written, ofSource?]
  | num readsBack =>
    obtain ⟨literal, hliteral, hnumber⟩ := readsBack.denotes
    simp [written, ofSource?, hliteral, hnumber]
  | str => simp [written, ofSource?, unescape?_escaped]
  | arr items_legible ih => rw [written, ofSource?, ofItems?_written ih, Option.map_some]
  | obj nodup values_legible ih =>
    rw [written, ofSource?, ofMembers?_written ih, Option.map_some, Members.ofList_eq_self nodup]

/-- A text that is a value, with white space behind it, stands for that value. -/
theorem Legible.read?_compact (h : Legible depthLimit value) {gap : List Char} (hgap : ∀ c ∈ gap, isSpace c = true) :
    read? (String.ofList (compactChars value ++ gap)) = some value := by
  rw [read?, h.sourceRead? hgap, Option.bind_some, h.ofSource?_written]

/-- The compact text of a value stands for that value. -/
theorem Legible.read?_compact_self (h : Legible depthLimit value) : read? value.compact = some value := by
  have hread := h.read?_compact (List.forall_mem_nil _)
  rwa [List.append_nil] at hread

/-- An object of texts can be read back if no key comes twice. -/
theorem legible_textMembers {entries : List (String × String)} (h : (entries.map Prod.fst).Nodup) :
    Legible depthLimit (.obj (textMembers entries)) := by
  refine .obj ?_ fun member hmember => ?_
  · rwa [textMembers, List.map_map]
  · obtain ⟨entry, -, rfl⟩ := List.mem_map.1 hmember
    exact .str

end Json

end SheetQuery
