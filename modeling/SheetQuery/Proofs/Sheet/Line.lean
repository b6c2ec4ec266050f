import SheetQuery.Proofs.Text.Split
import SheetQuery.Proofs.Text.Utf8
import SheetQuery.Sheet.Writer

/-!
# Written lines read back

A line of at least one cell, all of them without a caret and without an end of line, is read as the same cells, whatever
follows it: it is never blank, since the caret behind its last cell stays when the end of the line is taken off.

The cells of any other line that can be read are not empty and have neither a caret nor a line feed. They may have a carriage
return, of which only the last one of a line is taken off.
-/

namespace SheetQuery.Sheet

open Text

/-! ## Ends of lines -/

/-- The line feed ends the first line. -/
theorem segments_append {line : List UInt8} (h : lineFeed ∉ line) (rest : List UInt8) :
    segments (line ++ lineFeed :: rest) = line :: segments rest := by
  induction line with
  | nil => rw [List.nil_append, segments, if_pos rfl]
  | cons b line ih =>
    have hb : b ≠ lineFeed := fun e => h (by simp [e])
    have hline : lineFeed ∉ line := fun hm => h (List.mem_cons_of_mem b hm)
    rw [List.cons_append, segments, if_neg hb, ih hline]

/-- One byte is taken off the end of a line exactly if it is the one that is asked for, and any other line is left alone. -/
theorem withoutLast_eq_iff {b : UInt8} {line rest : List UInt8} :
    withoutLast b line = rest ↔ line = rest ++ [b] ∨ line.getLast? ≠ some b ∧ line = rest := by
  by_cases hlast : line.getLast? = some b
  · obtain ⟨before, rfl⟩ := List.getLast?_eq_some_iff.1 hlast
    rw [withoutLast, if_pos hlast, List.dropLast_concat, or_iff_left fun h => h.1 hlast, List.append_left_inj]
  · have hend : line ≠ rest ++ [b] := fun h => hlast (List.getLast?_eq_some_iff.2 ⟨rest, h⟩)
    rw [withoutLast, if_neg hlast, or_iff_right hend, and_iff_right hlast]

/-- A byte put at the end of a line is taken off again. -/
theorem withoutLast_concat (b : UInt8) (line : List UInt8) : withoutLast b (line ++ [b]) = line :=
  withoutLast_eq_iff.2 (.inl rfl)

/-! ## Cells -/

/-- What a text must not have to stand in a cell. -/
theorem isCellText_iff {text : String} :
    isCellText text = true ↔ ∀ c ∈ text.toList, c ≠ '^' ∧ c ≠ '\r' ∧ c ≠ '\n' := by
  simp only [isCellText, List.all_eq_true, Bool.and_eq_true, bne_iff_ne, and_assoc]

/-- The characters of a line before its end: the cells, with a caret behind each. -/
def lineContent (cells : List String) : List Char :=
  (cells.map String.toList).flatMap (· ++ ['^'])

/-- A line is its content and its end. -/
theorem lineText_eq (cells : List String) : lineText cells = lineContent cells ++ ['\r', '\n'] := by
  rw [lineText, lineContent, List.flatMap_map]

/-- No byte of the content of a line ends the line. -/
theorem lineFeed_not_mem_content {cells : List String} (h : ∀ cell ∈ cells, isCellText cell = true) :
    lineFeed ∉ encodeChars (lineContent cells) := by
  refine ascii_not_mem_encodeChars (by decide) fun c hc e => ?_
  have hlf : c = '\n' := Char.toNat_inj.1 e
  simp only [lineContent, List.mem_flatMap, List.mem_map, List.mem_append, List.mem_singleton] at hc
  obtain ⟨_, ⟨cell, hcell, rfl⟩, hc⟩ := hc
  rcases hc with hc | hc
  · exact (isCellText_iff.1 (h cell hcell) c hc).2.2 hlf
  · exact absurd (hc.symm.trans hlf) (by decide)

/-- The bytes of a written line are one line, whatever follows it. -/
theorem segments_lineText {cells : List String} (h : ∀ cell ∈ cells, isCellText cell = true) (rest : List UInt8) :
    segments (encodeChars (lineText cells) ++ rest) =
      (encodeChars (lineContent cells) ++ [carriageReturn]) :: segments rest := by
  have hend : encodeChars ['\r', '\n'] = [carriageReturn, lineFeed] := by decide
  have hlf : lineFeed ∉ encodeChars (lineContent cells) ++ [carriageReturn] := by
    rw [List.mem_append, List.mem_singleton, not_or]
    exact ⟨lineFeed_not_mem_content h, by decide⟩
  rw [lineText_eq, encodeChars_append, hend, ← segments_append hlf]
  simp

/-- The content of a line of at least one cell ends in a caret, so that the line is not blank. -/
theorem encodeChars_lineContent {cells : List String} (hne : cells ≠ []) :
    encodeChars (lineContent cells) = encodeChars (joinWith '^' (cells.map String.toList)) ++ [caret] := by
  have hcaret : encodeChars ['^'] = [caret] := by decide
  rw [lineContent, flatMap_terminated (by simpa using hne), encodeChars_append, hcaret]

/-- The content of a line splits into its cells. -/
theorem splitCells_lineContent {cells : List String} (hne : cells ≠ []) (h : ∀ cell ∈ cells, isCellText cell = true)
    (number : Nat) :
    splitCells number (encodeChars (lineContent cells)) = .ok (cells.map fun cell => cellOf cell.toList) := by
  have hcaret : ∀ piece ∈ cells.map String.toList, '^' ∉ piece := by
    intro piece hp hm
    obtain ⟨cell, hcell, rfl⟩ := List.mem_map.1 hp
    exact (isCellText_iff.1 (h cell hcell) _ hm).1 rfl
  rw [splitCells, encodeChars_lineContent hne, withoutLast_concat, decodeFrom_encodeChars]
  simp only [splitOn_joinWith (by simpa using hne) hcaret, List.map_map]
  rfl

/-! ## Lines -/

namespace Lines

/-- The first line of a sheet, when it is a written one. -/
theorem nextFrom_lineText {cells : List String} (hne : cells ≠ []) (h : ∀ cell ∈ cells, isCellText cell = true)
    (number : Nat) (rest : List UInt8) :
    nextFrom number (segments (encodeChars (lineText cells) ++ rest)) =
      (some (.ok (cells.map fun cell => cellOf cell.toList)), ⟨segments rest, number + 1⟩) := by
  have hblank : (encodeChars (lineContent cells)).isEmpty = false := by simp [encodeChars_lineContent hne]
  rw [segments_lineText h, nextFrom]
  simp only [withoutLast_concat, hblank, splitCells_lineContent hne h]
  rfl

/-- The lines of a sheet, when the first is a written one. -/
theorem numbered_lineText {cells : List String} (hne : cells ≠ []) (h : ∀ cell ∈ cells, isCellText cell = true)
    (number : Nat) (rest : List UInt8) :
    numbered number (segments (encodeChars (lineText cells) ++ rest)) =
      (number + 1, .ok (cells.map fun cell => cellOf cell.toList)) :: numbered (number + 1) (segments rest) := by
  have hblank : (encodeChars (lineContent cells)).isEmpty = false := by simp [encodeChars_lineContent hne]
  rw [segments_lineText h, numbered]
  simp only [withoutLast_concat, hblank, splitCells_lineContent hne h]
  rfl

end Lines

/-! ## Cells of any line -/

/-- Whether a text can come out of a line: it is not empty, and it has neither what ends a cell nor what ends a line. -/
def IsCut (text : String) : Prop :=
  text ≠ "" ∧ ∀ c ∈ text.toList, c ≠ '^' ∧ c ≠ '\n'

/-- Whether all texts in the cells of a line can come out of one. -/
def RawLine.Cut (cells : RawLine) : Prop :=
  ∀ text, some text ∈ cells → IsCut text

/-- A text that comes out of a line can stand in a cell unless it has a carriage return. -/
theorem isCellText_of_isCut {text : String} (h : IsCut text) : isCellText text = !text.toList.contains '\r' := by
  cases hr : text.toList.contains '\r' with
  | true =>
    rw [Bool.not_true, ← Bool.not_eq_true]
    exact fun hcell => (isCellText_iff.1 hcell _ (List.contains_iff_mem.1 hr)).2.1 rfl
  | false =>
    rw [Bool.not_false]
    refine isCellText_iff.2 fun c hc => ⟨(h.2 c hc).1, ?_, (h.2 c hc).2⟩
    rintro rfl
    rw [List.contains_iff_mem.2 hc] at hr
    nomatch hr

/-- No line has what ends a line. -/
theorem lineFeed_not_mem_of_mem_segments {bytes line : List UInt8} (h : line ∈ segments bytes) : lineFeed ∉ line := by
  induction bytes generalizing line with
  | nil => nomatch h
  | cons b rest ih =>
    rw [segments] at h
    split at h
    · rcases List.mem_cons.1 h with rfl | h
      · exact List.not_mem_nil
      · exact ih h
    · rename_i hb
      have hfirst : ∀ line, lineFeed ∉ line → lineFeed ∉ b :: line := fun line hline hm =>
        (List.mem_cons.1 hm).elim (fun e => hb e.symm) hline
      cases hrest : segments rest with
      | nil =>
        rw [hrest] at h
        rw [List.mem_singleton.1 h]
        exact hfirst [] List.not_mem_nil
      | cons next lines =>
        rw [hrest] at h ih
        rcases List.mem_cons.1 h with rfl | h
        · exact hfirst next (ih List.mem_cons_self)
        · exact ih (List.mem_cons_of_mem _ h)

/-- What is left of a line was in it. -/
theorem mem_of_mem_withoutLast {b x : UInt8} {line : List UInt8} (h : x ∈ withoutLast b line) : x ∈ line := by
  rcases withoutLast_eq_iff.1 (Eq.refl (withoutLast b line)) with hline | ⟨-, hline⟩
  · rw [hline]
    exact List.mem_append_left _ h
  · rwa [hline]

/-- The cells of a line come out of it. -/
theorem cut_of_splitCells {number : Nat} {content : List UInt8} {cells : RawLine} (hlf : lineFeed ∉ content)
    (h : splitCells number content = .ok cells) : cells.Cut := by
  rw [splitCells] at h
  cases hd : decodeFrom 0 (withoutLast caret content) with
  | error e => rw [hd] at h; nomatch h
  | ok chars =>
    rw [hd] at h
    obtain rfl := Except.ok.inj h
    intro text ht
    obtain ⟨piece, hpiece, hcell⟩ := List.mem_map.1 ht
    obtain ⟨hcaret, hchars⟩ := not_mem_of_mem_splitOn hpiece
    rw [cellOf] at hcell
    split at hcell
    · nomatch hcell
    · rename_i hne
      obtain rfl := Option.some.inj hcell
      refine ⟨fun e => hne ?_, fun c hc => ?_⟩
      · rw [List.isEmpty_iff, ← String.toList_ofList (l := piece), e]
        rfl
      · rw [String.toList_ofList] at hc
        refine ⟨fun e => hcaret (e ▸ hc), fun e => hlf ?_⟩
        have hbyte : Char.ofNat lineFeed.toNat ∈ chars := hchars _ (e ▸ hc)
        exact mem_of_mem_withoutLast (ascii_mem_of_decodeFrom (by decide) hd hbyte)

namespace Lines

/-- The cells of the lines that can be read come out of lines. -/
theorem cut_of_mem_numbered {number next : Nat} {lines : List (List UInt8)} {cells : RawLine}
    (hlf : ∀ line ∈ lines, lineFeed ∉ line) (h : (next, .ok cells) ∈ numbered number lines) : cells.Cut := by
  induction lines generalizing number with
  | nil => nomatch h
  | cons line lines ih =>
    have hrest : ∀ line ∈ lines, lineFeed ∉ line := fun l hl => hlf l (List.mem_cons_of_mem _ hl)
    rw [numbered] at h
    split at h
    · exact ih hrest h
    · rcases List.mem_cons.1 h with h | h
      · have hcells := (congrArg Prod.snd h).symm
        refine cut_of_splitCells (fun hm => ?_) hcells
        exact hlf line List.mem_cons_self (mem_of_mem_withoutLast hm)
      · exact ih hrest h

end Lines

end SheetQuery.Sheet
