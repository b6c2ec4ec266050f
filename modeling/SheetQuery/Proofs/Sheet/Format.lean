import SheetQuery.Proofs.Sheet.Line

/-!
# What bytes are read as

Any bytes are cut into lines at the line feeds, and every line that is not blank is asked for once, in order and with its number
among all lines. What a line is read as lies in its own bytes and its number alone. A line that is no text is an error; the
cells of any other line are the only ones that give the line back when they are joined, since none of them has a caret.
-/

namespace SheetQuery.Sheet

open Text

/-! ## One line -/

/-- Whether bytes are those of a text. -/
def IsUtf8 (bytes : List UInt8) : Prop :=
  ∃ chars, encodeChars chars = bytes

/-- What may be read of the line with a number that has a content. -/
inductive ReadsAs (number : Nat) (content : List UInt8) : Except SheetError RawLine → Prop
  /-- A line that is no text is an error with the number of the line. -/
  | fault (cause : Utf8Error) (h : ¬IsUtf8 (withoutLast caret content)) :
    ReadsAs number content (.error ⟨.invalidEncoding number cause, some number⟩)
  /-- A text is the one that its cells are joined to, with a caret between each two of them; an empty cell has no text. -/
  | cells (cells : RawLine) (hne : cells ≠ []) (hcut : ∀ text, some text ∈ cells → text ≠ "" ∧ '^' ∉ text.toList)
    (hjoin : encodeChars (joinWith '^' (cells.map fun cell => (cell.getD "").toList)) = withoutLast caret content) :
    ReadsAs number content (.ok cells)

/-- The text of a cell is the piece that the cell is made of. -/
theorem toList_cellOf (piece : List Char) : ((cellOf piece).getD "").toList = piece := by
  cases piece with
  | nil => rfl
  | cons c piece => exact String.toList_ofList

/-- A cell that is not empty has the text of its piece. -/
theorem cellOf_eq_some {piece : List Char} {text : String} (h : cellOf piece = some text) :
    text ≠ "" ∧ text.toList = piece := by
  cases piece with
  | nil => nomatch h
  | cons c piece =>
    obtain rfl : String.ofList (c :: piece) = text := Option.some.inj h
    refine ⟨fun hempty => ?_, String.toList_ofList⟩
    have hnil : c :: piece = [] := String.toList_ofList.symm.trans (congrArg String.toList hempty)
    nomatch hnil

/-- Every line is read as it may be. -/
theorem readsAs_splitCells (number : Nat) (content : List UInt8) :
    ReadsAs number content (splitCells number content) := by
  rw [splitCells]
  cases hread : decodeFrom 0 (withoutLast caret content) with
  | error cause =>
    refine .fault cause fun hutf8 => ?_
    obtain ⟨chars, hchars⟩ := hutf8
    rw [decodeFrom_eq_ok_iff.2 hchars] at hread
    cases hread
  | ok chars =>
    refine .cells _ ?_ (fun text htext => ?_) ?_
    · exact fun hnil => splitOn_ne_nil '^' chars (List.map_eq_nil_iff.1 hnil)
    · obtain ⟨piece, hpiece, hcell⟩ := List.mem_map.1 htext
      obtain ⟨hne, htext⟩ := cellOf_eq_some hcell
      rw [htext]
      exact ⟨hne, (not_mem_of_mem_splitOn hpiece).1⟩
    · have htexts : ((splitOn '^' chars).map cellOf).map (fun cell => (cell.getD "").toList) = splitOn '^' chars := by
        rw [List.map_map]
        exact (List.map_congr_left fun piece _ => toList_cellOf piece).trans (List.map_id _)
      rw [htexts, joinWith_splitOn, encodeChars_of_decodeFrom hread]

/-! ## All lines -/

namespace Lines

/-- Asking for the next line over and over gives a list of lines, each with its number, and then no more. -/
inductive Gives : Lines → List (Nat × Except SheetError RawLine) → Prop
  | done {lines rest : Lines} (h : lines.next = (none, rest)) : Gives lines []
  | line {lines rest : Lines} {line : Except SheetError RawLine} {others : List (Nat × Except SheetError RawLine)}
    (h : lines.next = (some line, rest)) (hrest : Gives rest others) : Gives lines ((rest.number, line) :: others)

/-- The contents of lines that are not blank, each with the number of its line, when so many lines come before them. -/
def contents (before : Nat) (lines : List (List UInt8)) : List (Nat × List UInt8) :=
  ((lines.zipIdx (before + 1)).map fun (line, number) => (number, withoutLast carriageReturn line)).filter (!·.2.isEmpty)

theorem numbered_eq (before : Nat) (lines : List (List UInt8)) :
    numbered before lines = (contents before lines).map fun (number, content) => (number, splitCells number content) := by
  induction lines generalizing before with
  | nil => rfl
  | cons line lines ih =>
    have hcontents : contents before (line :: lines) =
        if !(withoutLast carriageReturn line).isEmpty then
          (before + 1, withoutLast carriageReturn line) :: contents (before + 1) lines
        else contents (before + 1) lines := by
      rw [contents, List.zipIdx_cons, List.map_cons, List.filter_cons, contents]
    rw [numbered, ih, hcontents]
    cases (withoutLast carriageReturn line).isEmpty <;> rfl

/-- The numbers of lines ascend. -/
theorem pairwise_numbered (before : Nat) (lines : List (List UInt8)) : (numbered before lines).Pairwise (·.1 < ·.1) := by
  have hnumbers : ((lines.zipIdx (before + 1)).map Prod.snd).Pairwise (· < ·) := by
    rw [List.zipIdx_map_snd]
    exact List.pairwise_lt_range'
  rw [numbered_eq, contents, List.pairwise_map]
  exact .filter _ (List.pairwise_map.2 (List.pairwise_map.1 hnumbers))

/-- A blank line after all others is not read. -/
theorem numbered_append_blank (before : Nat) (lines : List (List UInt8)) :
    numbered before (lines ++ [[]]) = numbered before lines := by
  induction lines generalizing before with
  | nil => rfl
  | cons line lines ih => rw [List.cons_append, numbered, numbered, ih]

/-- The lines are the pieces between line feeds, but for the empty piece after a line feed at the end. -/
theorem splitOn_lineFeed (bytes : List UInt8) :
    splitOn lineFeed bytes = segments bytes ∨ splitOn lineFeed bytes = segments bytes ++ [[]] := by
  induction bytes with
  | nil => exact .inr rfl
  | cons b rest ih =>
    rw [splitOn, segments]
    split
    · rcases ih with ih | ih
      · exact .inl (by rw [ih])
      · exact .inr (by rw [ih, List.cons_append])
    · cases hsegments : segments rest with
      | nil =>
        rw [hsegments] at ih
        rcases ih with ih | ih
        · exact absurd ih (splitOn_ne_nil lineFeed rest)
        · exact .inl (by rw [ih, List.nil_append])
      | cons line lines =>
        rw [hsegments] at ih
        rcases ih with ih | ih
        · exact .inl (by rw [ih])
        · exact .inr (by rw [ih]; rfl)

/-- The lines of bytes that are not blank are the pieces between line feeds that are not blank. -/
theorem toList_ofBytes (bytes : List UInt8) :
    (ofBytes bytes).toList =
      (contents 0 (splitOn lineFeed bytes)).map fun (number, content) => (number, splitCells number content) := by
  rw [← numbered_eq, toList, ofBytes]
  rcases splitOn_lineFeed bytes with h | h
  · rw [h]
  · rw [h, numbered_append_blank]

/-- A line of bytes is the piece with its number, and it is not blank. -/
theorem exists_piece_of_mem {bytes : List UInt8} {number : Nat} {line : Except SheetError RawLine}
    (h : (number, line) ∈ (ofBytes bytes).toList) :
    ∃ piece, 0 < number ∧ (splitOn lineFeed bytes)[number - 1]? = some piece ∧ withoutLast carriageReturn piece ≠ [] ∧
      line = splitCells number (withoutLast carriageReturn piece) := by
  rw [toList_ofBytes, List.mem_map] at h
  obtain ⟨⟨number', content⟩, hcontent, hline⟩ := h
  obtain ⟨rfl, rfl⟩ := Prod.mk.inj hline
  rw [contents, List.mem_filter, List.mem_map] at hcontent
  obtain ⟨⟨⟨piece, place⟩, hpiece, hplace⟩, hblank⟩ := hcontent
  obtain ⟨rfl, rfl⟩ := Prod.mk.inj hplace
  obtain ⟨hpositive, hget⟩ := List.mk_mem_zipIdx_iff_le_and_getElem?_sub.1 hpiece
  exact ⟨piece, hpositive, hget, by simpa using hblank, rfl⟩

/-- A line that is asked for is the first of those that are left, if there is one, and the others are left after it. -/
theorem next_cases (lines : Lines) :
    (∃ rest, lines.next = (none, rest) ∧ lines.toList = [] ∧ rest.toList = []) ∨
      ∃ line rest, lines.next = (some line, rest) ∧ lines.toList = (rest.number, line) :: rest.toList := by
  obtain ⟨remaining, number⟩ := lines
  simp only [next, toList]
  induction remaining generalizing number with
  | nil => exact .inl ⟨_, rfl, rfl, rfl⟩
  | cons line remaining ih =>
    rw [nextFrom, numbered]
    cases (withoutLast carriageReturn line).isEmpty with
    | true => exact ih (number + 1)
    | false => exact .inr ⟨_, _, rfl, rfl⟩

/-- Asking for lines over and over gives those that are left. -/
theorem gives_toList (lines : Lines) : lines.Gives lines.toList := by
  induction hlist : lines.toList generalizing lines with
  | nil =>
    rcases next_cases lines with ⟨rest, hnext, -, -⟩ | ⟨line, rest, -, hcons⟩
    · exact .done hnext
    · rw [hlist] at hcons
      nomatch hcons
  | cons first others ih =>
    rcases next_cases lines with ⟨rest, -, hnil, -⟩ | ⟨line, rest, hnext, hcons⟩
    · rw [hlist] at hnil
      nomatch hnil
    · obtain ⟨rfl, hothers⟩ := List.cons.inj (hlist.symm.trans hcons)
      exact .line hnext (hothers ▸ ih rest hothers.symm)

/-- Bytes that begin with the marker are read as those after it. -/
theorem withHeader_eq_ok_iff {bytes : List UInt8} {lines : Lines} :
    withHeader bytes = .ok lines ↔ ∃ rest, bytes = headerMarker :: rest ∧ lines = ofBytes rest := by
  cases bytes with
  | nil => simp [withHeader]
  | cons b rest =>
    rw [withHeader]
    split
    · rename_i hmarker
      simp [hmarker, eq_comm]
    · rename_i hmarker
      simp [hmarker]

/-- Bytes that do not begin with the marker are refused. -/
theorem withHeader_eq_error_iff {bytes : List UInt8} :
    withHeader bytes = .error (.ofFault .missingHeader) ↔ bytes.head? ≠ some headerMarker := by
  cases bytes with
  | nil => simp [withHeader]
  | cons b rest =>
    rw [withHeader]
    split
    · rename_i hmarker
      simp [hmarker]
    · rename_i hmarker
      simp [hmarker]

/-- What bytes are read as. They are cut at the line feeds, and asking for their lines over and over comes to an end and gives
one line for each piece that is not blank without a carriage return at its end, in order and with the number of the piece among
all of them; each is read as it may be, whatever the others are. Where a marker must come first, it is no part of the first
line, and the bytes are refused without it. -/
theorem gives_ofBytes (bytes : List UInt8) :
    (∃ pieces, pieces ≠ [] ∧ (∀ piece ∈ pieces, lineFeed ∉ piece) ∧ joinWith lineFeed pieces = bytes ∧
      (ofBytes bytes).Gives ((contents 0 pieces).map fun (number, content) => (number, splitCells number content))) ∧
      (∀ number content, ReadsAs number content (splitCells number content)) ∧
      (∀ lines, withHeader bytes = .ok lines ↔ ∃ rest, bytes = headerMarker :: rest ∧ lines = ofBytes rest) ∧
      (withHeader bytes = .error (.ofFault .missingHeader) ↔ bytes.head? ≠ some headerMarker) := by
  refine ⟨⟨splitOn lineFeed bytes, splitOn_ne_nil lineFeed bytes, ?_, joinWith_splitOn bytes, ?_⟩, readsAs_splitCells,
    fun lines => withHeader_eq_ok_iff, withHeader_eq_error_iff⟩
  · intro piece hpiece
    exact (not_mem_of_mem_splitOn hpiece).1
  · rw [← toList_ofBytes]
    exact gives_toList (ofBytes bytes)

/-- A line of cells, a blank one, one that is no text and, without an end, one of empty cells. Behind a marker they are read
as without one, and without one there is no header. -/
theorem gives_ofBytes_decorated :
    let bytes : List UInt8 := [97, caret, caret, 98, caret, carriageReturn, lineFeed, lineFeed, 255, lineFeed, caret, caret]
    let unreadable : SheetError := ⟨.invalidEncoding 3 (.invalid 0 1), some 3⟩
    (ofBytes bytes).Gives [(1, .ok [some "a", none, some "b"]), (3, .error unreadable), (4, .ok [none, none])] ∧
      ReadsAs 3 [255] (.error unreadable) ∧ withHeader (headerMarker :: bytes) = .ok (ofBytes bytes) ∧
      withHeader bytes = .error (.ofFault .missingHeader) := by
  intro bytes unreadable
  obtain ⟨⟨pieces, hne, hclean, hjoin, hgives⟩, hreads, -, hmissing⟩ := gives_ofBytes bytes
  obtain ⟨-, -, hheader, -⟩ := gives_ofBytes (headerMarker :: bytes)
  refine ⟨?_, hreads 3 [255], (hheader _).2 ⟨bytes, rfl, rfl⟩, hmissing.2 (by decide +kernel)⟩
  have hpieces : pieces = splitOn lineFeed bytes := by rw [← hjoin, splitOn_joinWith hne hclean]
  have hlines : (ofBytes bytes).toList =
      [(1, .ok [some "a", none, some "b"]), (3, .error unreadable), (4, .ok [none, none])] := by
    rfl
  rw [hpieces, ← toList_ofBytes, hlines] at hgives
  exact hgives

end Lines

end SheetQuery.Sheet
