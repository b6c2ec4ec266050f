import SheetQuery.Proofs.Outcome
import SheetQuery.Text.Utf8

/-!
# UTF-8 reads back

What is written for characters reads back as the same characters. The reader decides by the first byte how many belong to a
character, so there is one lemma for each number of bytes, and the writer's bytes meet its conditions because a character
is never a surrogate. A byte of the ASCII set stands for its own character and for no part of another one. Bytes that are
read are written again as the same bytes, since no character is read from a longer form than its own.
-/

namespace SheetQuery.Text

/-! ## One character -/

/-- Whether a byte lies between two others, on the numbers of the bytes. -/
theorem within_iff {low high a : UInt8} :
    (low ≤ a && a ≤ high) = true ↔ low.toNat ≤ a.toNat ∧ a.toNat ≤ high.toNat := by
  rw [Bool.and_eq_true, decide_eq_true_iff, decide_eq_true_iff, UInt8.le_iff_toNat_le, UInt8.le_iff_toNat_le]

/-- A byte stands alone exactly when its number is below 128. -/
theorem lt_continuation_iff {a : UInt8} : a < 0x80 ↔ a.toNat < 0x80 :=
  UInt8.lt_iff_toNat_lt

/-- A single byte below the continuation bytes is read as a character of its own. -/
theorem decodeFrom_one {a : UInt8} (ha : a.toNat < 0x80) (start : Nat) (rest : List UInt8) :
    decodeFrom start (a :: rest) = (Char.ofNat a.toNat :: ·) <$> decodeFrom (start + 1) rest := by
  rw [decodeFrom.eq_def]
  simp only [lt_continuation_iff.2 ha, if_true]

/-- A first byte of two, and a continuation byte after it. -/
theorem decodeFrom_two {a b : UInt8} (ha : 0xc2 ≤ a.toNat ∧ a.toNat ≤ 0xdf) (hb : isContinuation b = true) (start : Nat)
    (rest : List UInt8) :
    decodeFrom start (a :: b :: rest) =
      (Char.ofNat (a.toNat % 32 * 64 + payload b) :: ·) <$> decodeFrom (start + 2) rest := by
  have h1 : ¬a < 0x80 := by
    rw [lt_continuation_iff]
    omega
  have h2 : (0xc2 ≤ a && a ≤ 0xdf) = true := within_iff.2 ha
  rw [decodeFrom.eq_def]
  simp only [h1, h2, hb, if_true, if_false]

/-- A first byte of three, and two continuation bytes after it. -/
theorem decodeFrom_three {a b c : UInt8} (ha : 0xe0 ≤ a.toNat ∧ a.toNat ≤ 0xef) (hb : secondOfThree a b = true)
    (hc : isContinuation c = true) (start : Nat) (rest : List UInt8) :
    decodeFrom start (a :: b :: c :: rest) =
      (Char.ofNat ((a.toNat % 16 * 64 + payload b) * 64 + payload c) :: ·) <$> decodeFrom (start + 3) rest := by
  have h1 : ¬a < 0x80 := by
    rw [lt_continuation_iff]
    omega
  have h2 : ¬(0xc2 ≤ a && a ≤ 0xdf) = true := by
    rw [within_iff]
    simp only [UInt8.reduceToNat]
    omega
  have h3 : (0xe0 ≤ a && a ≤ 0xef) = true := within_iff.2 ha
  rw [decodeFrom.eq_def]
  simp only [h1, h2, h3, hb, hc, Bool.false_eq_true, if_true, if_false]

/-- A first byte of four, and three continuation bytes after it. -/
theorem decodeFrom_four {a b c d : UInt8} (ha : 0xf0 ≤ a.toNat ∧ a.toNat ≤ 0xf4) (hb : secondOfFour a b = true)
    (hc : isContinuation c = true) (hd : isContinuation d = true) (start : Nat) (rest : List UInt8) :
    decodeFrom start (a :: b :: c :: d :: rest) =
      (Char.ofNat (((a.toNat % 8 * 64 + payload b) * 64 + payload c) * 64 + payload d) :: ·)
        <$> decodeFrom (start + 4) rest := by
  have h1 : ¬a < 0x80 := by
    rw [lt_continuation_iff]
    omega
  have h2 : ¬(0xc2 ≤ a && a ≤ 0xdf) = true := by
    rw [within_iff]
    simp only [UInt8.reduceToNat]
    omega
  have h3 : ¬(0xe0 ≤ a && a ≤ 0xef) = true := by
    rw [within_iff]
    simp only [UInt8.reduceToNat]
    omega
  have h4 : (0xf0 ≤ a && a ≤ 0xf4) = true := within_iff.2 ha
  rw [decodeFrom.eq_def]
  simp only [h1, h2, h3, h4, hb, hc, hd, Bool.false_eq_true, if_true, if_false]

/-- A number below 256 is kept by a byte. -/
theorem toNat_byte {n : Nat} (h : n < 256) : (UInt8.ofNat n).toNat = n := by
  rw [UInt8.toNat_ofNat']
  omega

/-- Six bits with the mark of a continuation byte are one, with those six bits. -/
theorem continuation_byte (n : Nat) :
    isContinuation (UInt8.ofNat (n % 64 + 0x80)) = true ∧ payload (UInt8.ofNat (n % 64 + 0x80)) = n % 64 := by
  have h := toNat_byte (n := n % 64 + 0x80) (by omega)
  constructor
  · rw [isContinuation, within_iff, h]
    simp only [UInt8.reduceToNat]
    omega
  · rw [payload, h]
    omega

/-- A number that is the code point of a character stands for it. -/
theorem char_of_codePoint {c : Char} {n : Nat} (h : n = c.val.toNat) : Char.ofNat n = c := by
  rw [h]
  exact Char.ofNat_toNat c

/-- The bytes of a character are read as that character, whatever follows them. -/
theorem decodeFrom_encodeChar (start : Nat) (c : Char) (rest : List UInt8) :
    ∃ next, decodeFrom start (String.utf8EncodeChar c ++ rest) = (c :: ·) <$> decodeFrom next rest := by
  have valid : c.val.toNat < 0xd800 ∨ 0xdfff < c.val.toNat ∧ c.val.toNat < 0x110000 := c.valid
  simp only [String.utf8EncodeChar]
  split
  · have ha := toNat_byte (n := c.val.toNat) (by omega)
    refine ⟨start + 1, ?_⟩
    rw [List.cons_append, List.nil_append, decodeFrom_one (by omega), char_of_codePoint ha]
  · split
    · have ha := toNat_byte (n := c.val.toNat / 64 % 32 + 0xc0) (by omega)
      obtain ⟨hb, pb⟩ := continuation_byte c.val.toNat
      refine ⟨start + 2, ?_⟩
      rw [List.cons_append, List.cons_append, List.nil_append, decodeFrom_two (by omega) hb,
        char_of_codePoint (c := c) (by omega)]
    · split
      · have ha := toNat_byte (n := c.val.toNat / 4096 % 16 + 0xe0) (by omega)
        have hb' := toNat_byte (n := c.val.toNat / 64 % 64 + 0x80) (by omega)
        obtain ⟨hb, pb⟩ := continuation_byte (c.val.toNat / 64)
        obtain ⟨hc, pc⟩ := continuation_byte c.val.toNat
        -- the first of the two following bytes is bounded so that there is no shorter form and no surrogate
        have second : secondOfThree (UInt8.ofNat (c.val.toNat / 4096 % 16 + 0xe0))
            (UInt8.ofNat (c.val.toNat / 64 % 64 + 0x80)) = true := by
          rw [secondOfThree, hb]
          simp only [← UInt8.toNat_inj, ha, UInt8.reduceToNat]
          split
          · rw [within_iff, hb']
            simp only [UInt8.reduceToNat]
            omega
          · split
            · rw [within_iff, hb']
              simp only [UInt8.reduceToNat]
              omega
            · rfl
        refine ⟨start + 3, ?_⟩
        rw [List.cons_append, List.cons_append, List.cons_append, List.nil_append,
          decodeFrom_three (by omega) second hc, char_of_codePoint (c := c) (by omega)]
      · have ha := toNat_byte (n := c.val.toNat / 262144 % 8 + 0xf0) (by omega)
        have hb' := toNat_byte (n := c.val.toNat / 4096 % 64 + 0x80) (by omega)
        obtain ⟨hb, pb⟩ := continuation_byte (c.val.toNat / 4096)
        obtain ⟨hc, pc⟩ := continuation_byte (c.val.toNat / 64)
        obtain ⟨hd, pd⟩ := continuation_byte c.val.toNat
        -- here it is bounded so that there is no shorter form and nothing past the last code point
        have second : secondOfFour (UInt8.ofNat (c.val.toNat / 262144 % 8 + 0xf0))
            (UInt8.ofNat (c.val.toNat / 4096 % 64 + 0x80)) = true := by
          rw [secondOfFour, hb]
          simp only [← UInt8.toNat_inj, ha, UInt8.reduceToNat]
          split
          · rw [within_iff, hb']
            simp only [UInt8.reduceToNat]
            omega
          · split
            · rw [within_iff, hb']
              simp only [UInt8.reduceToNat]
              omega
            · rfl
        refine ⟨start + 4, ?_⟩
        rw [List.cons_append, List.cons_append, List.cons_append, List.cons_append, List.nil_append,
          decodeFrom_four (by omega) second hc hd, char_of_codePoint (c := c) (by omega)]

/-! ## Texts -/

/-- The bytes of characters. -/
def encodeChars (chars : List Char) : List UInt8 :=
  chars.flatMap String.utf8EncodeChar

/-- The bytes of a text are those of its characters. -/
theorem encodeUtf8_ofList (chars : List Char) : encodeUtf8 (String.ofList chars) = encodeChars chars := by
  rw [encodeUtf8, String.toList_ofList, encodeChars]

theorem encodeChars_append (a b : List Char) : encodeChars (a ++ b) = encodeChars a ++ encodeChars b :=
  List.flatMap_append

/-- What is written for characters reads back as those characters. -/
theorem decodeFrom_encodeChars (start : Nat) (chars : List Char) : decodeFrom start (encodeChars chars) = .ok chars := by
  induction chars generalizing start with
  | nil => rw [encodeChars, List.flatMap_nil, decodeFrom]
  | cons c chars ih =>
    obtain ⟨next, h⟩ := decodeFrom_encodeChar start c (encodeChars chars)
    rw [encodeChars, List.flatMap_cons, ← encodeChars, h, ih]
    rfl

/-! ## Bytes of the ASCII set -/

/-- A byte of the ASCII set occurs in the bytes of its own character only. -/
theorem ascii_mem_encodeChar {b : UInt8} {c : Char} (hb : b.toNat < 0x80) (h : b ∈ String.utf8EncodeChar c) :
    c.toNat = b.toNat := by
  simp only [String.utf8EncodeChar] at h
  split at h
  · rw [List.mem_singleton] at h
    rw [h, toNat_byte (by omega)]
    rfl
  · exfalso
    have high : ∀ n m : Nat, 0x80 ≤ m → n + m < 256 → b ≠ UInt8.ofNat (n + m) := by
      intro n m hm hn hb'
      rw [hb', toNat_byte hn] at hb
      omega
    split at h
    · rcases List.mem_cons.1 h with h | h
      · exact high _ _ (by omega) (by omega) h
      · exact high _ _ (by omega) (by omega) (List.mem_singleton.1 h)
    · split at h
      · rcases List.mem_cons.1 h with h | h
        · exact high _ _ (by omega) (by omega) h
        · rcases List.mem_cons.1 h with h | h
          · exact high _ _ (by omega) (by omega) h
          · exact high _ _ (by omega) (by omega) (List.mem_singleton.1 h)
      · rcases List.mem_cons.1 h with h | h
        · exact high _ _ (by omega) (by omega) h
        · rcases List.mem_cons.1 h with h | h
          · exact high _ _ (by omega) (by omega) h
          · rcases List.mem_cons.1 h with h | h
            · exact high _ _ (by omega) (by omega) h
            · exact high _ _ (by omega) (by omega) (List.mem_singleton.1 h)

/-- A byte of the ASCII set does not occur in a text that its character does not occur in. -/
theorem ascii_not_mem_encodeChars {b : UInt8} {chars : List Char} (hb : b.toNat < 0x80)
    (h : ∀ c ∈ chars, c.toNat ≠ b.toNat) : b ∉ encodeChars chars := by
  intro hmem
  obtain ⟨c, hc, hbc⟩ := List.mem_flatMap.1 hmem
  exact h c hc (ascii_mem_encodeChar hb hbc)

/-- The number of a character that stands for a number: the same one, unless no character has it. -/
theorem toNat_charOfNat (n : Nat) : (Char.ofNat n).toNat = if n.isValidChar then n else 0 := by
  by_cases h : n.isValidChar
  · rw [Char.ofNat, dif_pos h, if_pos h]
    rfl
  · rw [Char.ofNat, dif_neg h, if_neg h]
    rfl

/-- The character of a byte of the ASCII set other than zero stands for no other number. -/
theorem eq_of_charOfNat_eq {n : Nat} {b : UInt8} (hb : 0 < b.toNat ∧ b.toNat < 0x80)
    (h : Char.ofNat b.toNat = Char.ofNat n) : n = b.toNat := by
  have hbyte : (Char.ofNat b.toNat).toNat = b.toNat := by
    have hvalid : b.toNat.isValidChar := .inl (by omega)
    rw [toNat_charOfNat, if_pos hvalid]
  rw [h, toNat_charOfNat] at hbyte
  split at hbyte
  · exact hbyte
  · omega

/-- A character of the ASCII set is not the one of a number past the set, so it is read after that one. -/
theorem mem_of_map_cons {n : Nat} {b : UInt8} (hb : 0 < b.toNat ∧ b.toNat < 0x80) (hn : 0x80 ≤ n)
    {read : Except Utf8Error (List Char)} {chars : List Char} (h : (Char.ofNat n :: ·) <$> read = .ok chars)
    (hc : Char.ofNat b.toNat ∈ chars) : ∃ rest, read = .ok rest ∧ Char.ofNat b.toNat ∈ rest := by
  obtain ⟨rest, hread, rfl⟩ := exists_of_map_ok h
  refine ⟨rest, hread, (List.mem_cons.1 hc).resolve_left fun e => ?_⟩
  have heq := eq_of_charOfNat_eq hb e
  omega

/-- Two bytes that begin a character of three do not stand for a number that fits two bytes, nor for one of a surrogate. -/
theorem bounds_of_secondOfThree {a b : UInt8} (ha : (0xe0 ≤ a && a ≤ 0xef) = true) (hb : secondOfThree a b = true) :
    0x20 ≤ a.toNat % 16 * 64 + payload b ∧
      (a.toNat % 16 * 64 + payload b < 0x360 ∨ 0x380 ≤ a.toNat % 16 * 64 + payload b) := by
  have ha' := within_iff.1 ha
  simp only [UInt8.reduceToNat] at ha'
  rw [secondOfThree] at hb
  split at hb
  · rename_i hlead
    have hb' := within_iff.1 hb
    simp only [hlead, UInt8.reduceToNat] at hb' ⊢
    rw [payload]
    omega
  · rename_i hfirst
    have hne : a.toNat ≠ 0xe0 := fun e => hfirst (UInt8.toNat_inj.1 e)
    split at hb
    · rename_i hlead
      have hb' := within_iff.1 hb
      simp only [hlead, UInt8.reduceToNat] at hb' ⊢
      rw [payload]
      omega
    · rename_i hlast
      have hne' : a.toNat ≠ 0xed := fun e => hlast (UInt8.toNat_inj.1 e)
      rw [payload]
      omega

/-- Two bytes that begin a character of four do not stand for a number that fits three bytes, nor for one past the last. -/
theorem bounds_of_secondOfFour {a b : UInt8} (ha : (0xf0 ≤ a && a ≤ 0xf4) = true) (hb : secondOfFour a b = true) :
    0x10 ≤ a.toNat % 8 * 64 + payload b ∧ a.toNat % 8 * 64 + payload b < 0x110 := by
  have ha' := within_iff.1 ha
  simp only [UInt8.reduceToNat] at ha'
  rw [secondOfFour] at hb
  split at hb
  · rename_i hlead
    have hb' := within_iff.1 hb
    simp only [hlead, UInt8.reduceToNat] at hb' ⊢
    rw [payload]
    omega
  · rename_i hfirst
    have hne : a.toNat ≠ 0xf0 := fun e => hfirst (UInt8.toNat_inj.1 e)
    split at hb
    · rename_i hlead
      have hb' := within_iff.1 hb
      simp only [hlead, UInt8.reduceToNat] at hb' ⊢
      rw [payload]
      omega
    · rename_i hlast
      have hne' : a.toNat ≠ 0xf4 := fun e => hlast (UInt8.toNat_inj.1 e)
      rw [payload]
      omega

/-- A character of the ASCII set other than the null character is read from its own byte only: no longer sequence of bytes
stands for it. -/
theorem ascii_mem_of_decodeFrom {b : UInt8} (hb : 0 < b.toNat ∧ b.toNat < 0x80) {start : Nat} {bytes : List UInt8}
    {chars : List Char} (h : decodeFrom start bytes = .ok chars) (hc : Char.ofNat b.toNat ∈ chars) : b ∈ bytes := by
  fun_induction decodeFrom start bytes generalizing chars with
  | case1 =>
    obtain rfl := Except.ok.inj h
    nomatch hc
  | case2 start a rest ha ih =>
    obtain ⟨chars, hread, rfl⟩ := exists_of_map_ok h
    rcases List.mem_cons.1 hc with hc | hc
    · have hbyte := eq_of_charOfNat_eq hb hc
      rw [UInt8.toNat_inj.1 hbyte]
      exact List.mem_cons_self
    · exact List.mem_cons_of_mem _ (ih hread hc)
  | case4 start a h1 ha second rest hsecond ih =>
    have ha' := within_iff.1 ha
    simp only [UInt8.reduceToNat] at ha'
    obtain ⟨chars, hread, hc⟩ := mem_of_map_cons hb (by omega) h hc
    exact List.mem_cons_of_mem _ (List.mem_cons_of_mem _ (ih hread hc))
  | case8 start a h1 h2 ha second hsecond third rest hthird ih =>
    have hlow := bounds_of_secondOfThree ha hsecond
    obtain ⟨chars, hread, hc⟩ := mem_of_map_cons hb (by omega) h hc
    exact List.mem_cons_of_mem _ (List.mem_cons_of_mem _ (List.mem_cons_of_mem _ (ih hread hc)))
  | case14 start a h1 h2 h3 ha second hsecond third hthird fourth rest hfourth ih =>
    have hlow := bounds_of_secondOfFour ha hsecond
    obtain ⟨chars, hread, hc⟩ := mem_of_map_cons hb (by omega) h hc
    exact List.mem_cons_of_mem _ (List.mem_cons_of_mem _ (List.mem_cons_of_mem _ (List.mem_cons_of_mem _ (ih hread hc))))
  | _ => nomatch h

/-! ## Bytes that are read -/

/-- The number of a character that stands for a number, if there is such a character. -/
theorem val_charOfNat {n : Nat} (h : n < 0xd800 ∨ 0xdfff < n ∧ n < 0x110000) : (Char.ofNat n).val.toNat = n := by
  have hvalid : n.isValidChar := h
  have hnumber := toNat_charOfNat n
  rwa [if_pos hvalid] at hnumber

/-- A byte is the one with its number. -/
theorem byte_eq {n : Nat} {a : UInt8} (h : n = a.toNat) : UInt8.ofNat n = a := by
  rw [h, UInt8.ofNat_toNat]

/-- A continuation byte is its mark and its six low bits. -/
theorem toNat_of_isContinuation {b : UInt8} (h : isContinuation b = true) : b.toNat = payload b + 0x80 := by
  have hb := within_iff.1 h
  simp only [UInt8.reduceToNat] at hb
  rw [payload]
  omega

/-- Whatever lies between continuation bytes is one. -/
theorem isContinuation_of_within {low high b : UInt8} (hlow : 0x80 ≤ low.toNat) (hhigh : high.toNat ≤ 0xbf)
    (h : (low ≤ b && b ≤ high) = true) : isContinuation b = true := by
  have hb := within_iff.1 h
  rw [isContinuation, within_iff]
  simp only [UInt8.reduceToNat]
  omega

/-- The second of three bytes is a continuation byte. -/
theorem isContinuation_of_secondOfThree {a b : UInt8} (h : secondOfThree a b = true) : isContinuation b = true := by
  rw [secondOfThree] at h
  split at h
  · exact isContinuation_of_within (by decide) (by decide) h
  · split at h
    · exact isContinuation_of_within (by decide) (by decide) h
    · exact h

/-- The second of four bytes is a continuation byte. -/
theorem isContinuation_of_secondOfFour {a b : UInt8} (h : secondOfFour a b = true) : isContinuation b = true := by
  rw [secondOfFour] at h
  split at h
  · exact isContinuation_of_within (by decide) (by decide) h
  · split at h
    · exact isContinuation_of_within (by decide) (by decide) h
    · exact h

/-- A single byte is written for the character that it is read as. -/
theorem encodeChar_one {a : UInt8} (ha : a < 0x80) : String.utf8EncodeChar (Char.ofNat a.toNat) = [a] := by
  have ha' := lt_continuation_iff.1 ha
  have hn := val_charOfNat (n := a.toNat) (by omega)
  simp only [String.utf8EncodeChar, hn]
  rw [if_pos (by omega), byte_eq rfl]

/-- Two bytes are written for the character that they are read as. -/
theorem encodeChar_two {a b : UInt8} (ha : (0xc2 ≤ a && a ≤ 0xdf) = true) (hb : isContinuation b = true) :
    String.utf8EncodeChar (Char.ofNat (a.toNat % 32 * 64 + payload b)) = [a, b] := by
  have ha' := within_iff.1 ha
  have hb' := toNat_of_isContinuation hb
  have hpb : payload b < 64 := Nat.mod_lt _ (by decide)
  simp only [UInt8.reduceToNat] at ha'
  have hn := val_charOfNat (n := a.toNat % 32 * 64 + payload b) (by omega)
  simp only [String.utf8EncodeChar, hn]
  rw [if_neg (by omega), if_pos (by omega), byte_eq (a := a) (by omega), byte_eq (a := b) (by omega)]

/-- Three bytes are written for the character that they are read as. -/
theorem encodeChar_three {a b c : UInt8} (ha : (0xe0 ≤ a && a ≤ 0xef) = true) (hb : secondOfThree a b = true)
    (hc : isContinuation c = true) :
    String.utf8EncodeChar (Char.ofNat ((a.toNat % 16 * 64 + payload b) * 64 + payload c)) = [a, b, c] := by
  have ha' := within_iff.1 ha
  have hb' := toNat_of_isContinuation (isContinuation_of_secondOfThree hb)
  have hc' := toNat_of_isContinuation hc
  have hpb : payload b < 64 := Nat.mod_lt _ (by decide)
  have hpc : payload c < 64 := Nat.mod_lt _ (by decide)
  have hbounds := bounds_of_secondOfThree ha hb
  simp only [UInt8.reduceToNat] at ha'
  have hn := val_charOfNat (n := (a.toNat % 16 * 64 + payload b) * 64 + payload c) (by omega)
  simp only [String.utf8EncodeChar, hn]
  rw [if_neg (by omega), if_neg (by omega), if_pos (by omega), byte_eq (a := a) (by omega), byte_eq (a := b) (by omega),
    byte_eq (a := c) (by omega)]

/-- Four bytes are written for the character that they are read as. -/
theorem encodeChar_four {a b c d : UInt8} (ha : (0xf0 ≤ a && a ≤ 0xf4) = true) (hb : secondOfFour a b = true)
    (hc : isContinuation c = true) (hd : isContinuation d = true) :
    String.utf8EncodeChar (Char.ofNat (((a.toNat % 8 * 64 + payload b) * 64 + payload c) * 64 + payload d)) =
      [a, b, c, d] := by
  have ha' := within_iff.1 ha
  have hb' := toNat_of_isContinuation (isContinuation_of_secondOfFour hb)
  have hc' := toNat_of_isContinuation hc
  have hd' := toNat_of_isContinuation hd
  have hpb : payload b < 64 := Nat.mod_lt _ (by decide)
  have hpc : payload c < 64 := Nat.mod_lt _ (by decide)
  have hpd : payload d < 64 := Nat.mod_lt _ (by decide)
  have hbounds := bounds_of_secondOfFour ha hb
  simp only [UInt8.reduceToNat] at ha'
  have hn := val_charOfNat (n := ((a.toNat % 8 * 64 + payload b) * 64 + payload c) * 64 + payload d) (by omega)
  simp only [String.utf8EncodeChar, hn]
  rw [if_neg (by omega), if_neg (by omega), if_neg (by omega), byte_eq (a := a) (by omega), byte_eq (a := b) (by omega),
    byte_eq (a := c) (by omega), byte_eq (a := d) (by omega)]

/-- The bytes of a first character, and of those after it if these are written as they are read. -/
theorem encodeChars_of_map_cons {c : Char} {own rest : List UInt8} {next : Nat} {chars : List Char}
    (hown : String.utf8EncodeChar c = own) (hrest : ∀ {read}, decodeFrom next rest = .ok read → encodeChars read = rest)
    (h : (c :: ·) <$> decodeFrom next rest = .ok chars) : encodeChars chars = own ++ rest := by
  obtain ⟨read, hread, rfl⟩ := exists_of_map_ok h
  rw [encodeChars, List.flatMap_cons, ← encodeChars, hown, hrest hread]

/-- Bytes that are read are those that are written for what they are read as: no text has a second form. -/
theorem encodeChars_of_decodeFrom {start : Nat} {bytes : List UInt8} {chars : List Char}
    (h : decodeFrom start bytes = .ok chars) : encodeChars chars = bytes := by
  fun_induction decodeFrom start bytes generalizing chars with
  | case1 =>
    obtain rfl := Except.ok.inj h
    rfl
  | case2 start a rest ha ih => exact encodeChars_of_map_cons (encodeChar_one ha) ih h
  | case4 start a h1 ha second rest hsecond ih => exact encodeChars_of_map_cons (encodeChar_two ha hsecond) ih h
  | case8 start a h1 h2 ha second hsecond third rest hthird ih =>
    exact encodeChars_of_map_cons (encodeChar_three ha hsecond hthird) ih h
  | case14 start a h1 h2 h3 ha second hsecond third hthird fourth rest hfourth ih =>
    exact encodeChars_of_map_cons (encodeChar_four ha hsecond hthird hfourth) ih h
  | _ => nomatch h

/-- Bytes are read as characters exactly when they are those of the characters. -/
theorem decodeFrom_eq_ok_iff {start : Nat} {bytes : List UInt8} {chars : List Char} :
    decodeFrom start bytes = .ok chars ↔ encodeChars chars = bytes := by
  constructor
  · exact encodeChars_of_decodeFrom
  · rintro rfl
    exact decodeFrom_encodeChars start chars

end SheetQuery.Text
