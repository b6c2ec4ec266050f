import SheetQuery.Proofs.Sheet.Columns
import SheetQuery.Proofs.Sheet.Refusal

/-!
# The first cell that does not convert

A sheet that is refused for a cell is refused for the first one, and the error says which: the number of its line among all lines
of the bytes, the field whose label stands over it and its text. Lines are in the order of their numbers and columns in the order
of the header, so that what has been read before the error is what stands before the cell.
-/

namespace SheetQuery.Sheet

open Text

variable {α : Type}

/-! ## Places -/

/-- A cell of a sheet: its line, with the number, and its column, with the field that the label of the column names. -/
structure CellPlace where
  number : Nat
  cells : RawLine
  column : Nat
  field : Field

/-- The text of a cell; there is none if the cell is empty or if the line is too short to have it. -/
def CellPlace.raw (place : CellPlace) : Option String :=
  (place.cells[place.column]?).join

/-- Whether the label of a column names a field. -/
def RawLine.Labels (header : RawLine) (column : Nat) (field : Field) : Prop :=
  ∃ label, header[column]? = some (some label) ∧ normalizeLabel label = normalizeLabel field.name

/-- Whether converting a cell for a field of a shape has an outcome. -/
def Field.ConvertsTo (shape : String) (field : Field) (raw : Option String) (outcome : Except ConvertError SlotValue) : Prop :=
  ∃ converter, Converter.ofField shape field = .ok converter ∧ converter.convert raw = outcome

/-- Whether a cell of a line after the header is the first cell of the sheet that does not convert. -/
structure CellPlace.FirstBad (place : CellPlace) (shape : Shape α) (bytes : List UInt8) (header : RawLine)
    (records : Records α) (cause : ConvertError) : Prop where
  /-- The line is the one with its number among all lines of the bytes, the first line having the number one. -/
  physical : ∃ piece, 0 < place.number ∧ (splitOn lineFeed bytes)[place.number - 1]? = some piece ∧
    splitCells place.number (withoutLast carriageReturn piece) = .ok place.cells
  /-- The line comes after the header. -/
  data : (place.number, .ok place.cells) ∈ records.lines.toList
  declared : place.field ∈ shape.declaration.fields
  labelled : header.Labels place.column place.field
  refused : place.field.ConvertsTo shape.declaration.shape place.raw (.error cause)
  /-- The cells to the left convert, as far as their columns have a label. -/
  left : ∀ column < place.column, ∀ field ∈ shape.declaration.fields, header.Labels column field →
    ∃ value, field.ConvertsTo shape.declaration.shape (place.cells[column]?).join (.ok value)
  /-- The lines before have records. -/
  before : ∀ number line, (number, line) ∈ records.lines.toList → number < place.number →
    ∃ cells record, line = .ok cells ∧ materialize shape records.schema cells number = .ok record

/-! ## Orders -/

/-- What has a lesser key in a list with ascending keys comes before. -/
theorem mem_of_key_lt {β : Type} {key : β → Nat} {before after : List β} {x y : β}
    (h : (before ++ x :: after).Pairwise (key · < key ·)) (hy : y ∈ before ++ x :: after) (hlt : key y < key x) :
    y ∈ before := by
  obtain ⟨-, hafter, -⟩ := List.pairwise_append.1 h
  rcases List.mem_append.1 hy with hy | hy
  · exact hy
  · rcases List.mem_cons.1 hy with rfl | hy
    · exact absurd hlt (Nat.lt_irrefl _)
    · exact absurd hlt (Nat.lt_asymm ((List.pairwise_cons.1 hafter).1 y hy))

/-! ## Headers -/

/-- The columns of a header that resolves are those whose label names a field, each for the slot of the field. -/
theorem ShapeSchema.mem_columns_iff {declaration : Declaration} {prepared : ShapeSchema}
    (hp : prepare declaration = .ok prepared) {header : RawLine} {schema : Schema} (hs : prepared.resolve header = .ok schema)
    {column : Column} :
    column ∈ schema.columns ↔ ∃ place slot field, column = prepared.column place slot ∧
      declaration.fields[slot]? = some field ∧ header.Labels place field := by
  obtain ⟨-, rfl⟩ := resolve_ok_iff.1 hs
  simp only [mem_mapped_iff, slotFor?_eq_some_iff hp, RawLine.Labels]
  constructor
  · rintro ⟨place, label, slot, rfl, hlabel, field, hfield, hname⟩
    exact ⟨place, slot, field, by rw [Nat.zero_add], hfield, label, hlabel, hname⟩
  · rintro ⟨place, slot, field, rfl, hfield, label, hlabel, hname⟩
    exact ⟨place, label, slot, by rw [Nat.zero_add], hlabel, field, hfield, hname⟩

/-- The columns of a header that resolves are in the order of the header. -/
theorem ShapeSchema.pairwise_columns {prepared : ShapeSchema} {header : RawLine} {schema : Schema}
    (hs : prepared.resolve header = .ok schema) : schema.columns.Pairwise (·.column < ·.column) := by
  obtain ⟨-, rfl⟩ := resolve_ok_iff.1 hs
  exact pairwise_mapped prepared 0 header

/-! ## Lines -/

/-- A column is converted as the field of its slot says, and an error is about this field and the cell of the column. -/
theorem convertsTo_of_convertColumn {declaration : Declaration} {schema : Schema}
    (hp : ShapeSchema.prepare declaration = .ok schema.shape) {column : Column} {field : Field}
    (hf : declaration.fields[column.slot]? = some field) {cells : RawLine} :
    (∀ value, convertColumn schema cells column = .ok value →
      field.ConvertsTo declaration.shape (cells[column.column]?).join (.ok value)) ∧
    ∀ error, convertColumn schema cells column = .error error →
      ∃ cause, error = .ofFault (.conversion declaration.shape field.name (cells[column.column]?).join cause) ∧
        field.ConvertsTo declaration.shape (cells[column.column]?).join (.error cause) := by
  obtain ⟨converter, hconverter, hcolumn⟩ := convertColumn_eq hp hf
  rw [hcolumn]
  cases hconvert : converter.convert (cells[column.column]?).join with
  | ok converted =>
    refine ⟨fun value h => ?_, fun error h => nomatch h⟩
    obtain rfl := Except.ok.inj h
    exact ⟨converter, hconverter, hconvert⟩
  | error cause =>
    refine ⟨fun value h => (nomatch h), fun error h => ?_⟩
    exact ⟨cause, (Except.error.inj h).symm, converter, hconverter, hconvert⟩

/-- A line that has no record has a first cell that does not convert, and the error is about this cell. -/
theorem exists_column_of_materialize_error {shape : Shape α} {readers : List SlotReader} (hb : shape.BuiltBy readers)
    {prepared : ShapeSchema} (hp : ShapeSchema.prepare shape.declaration = .ok prepared) {header : RawLine}
    {schema : Schema} (hs : prepared.resolve header = .ok schema) {cells : RawLine} (hcells : cells.Cut) {number : Nat}
    {error : SheetError} (h : materialize shape schema cells number = .error error) :
    ∃ column field cause,
      error = ⟨.conversion shape.declaration.shape field.name (cells[column]?).join cause, some number⟩ ∧
      field ∈ shape.declaration.fields ∧ header.Labels column field ∧
      field.ConvertsTo shape.declaration.shape (cells[column]?).join (.error cause) ∧
      ∀ left < column, ∀ other ∈ shape.declaration.fields, header.Labels left other →
        ∃ value, other.ConvertsTo shape.declaration.shape (cells[left]?).join (.ok value) := by
  obtain ⟨fault, hvalues, rfl⟩ := exists_of_materialize_error hb hp hs hcells h
  obtain ⟨before, column, after, hcolumns, hbefore, hcolumn⟩ := exists_of_fillSlots_error hvalues
  have hprepare : ShapeSchema.prepare shape.declaration = .ok schema.shape := by
    rw [hp, (ShapeSchema.resolve_ok hs).1]
  have hat : column ∈ schema.columns := hcolumns ▸ List.mem_append_right before List.mem_cons_self
  obtain ⟨place, slot, field, rfl, hfield, hlabel⟩ := (ShapeSchema.mem_columns_iff hp hs).1 hat
  obtain ⟨cause, rfl, hrefused⟩ := (convertsTo_of_convertColumn hprepare hfield).2 _ hcolumn
  refine ⟨place, field, cause, rfl, List.mem_of_getElem? hfield, hlabel, hrefused, ?_⟩
  intro left hleft other hother hlabels
  obtain ⟨slot, hslot⟩ := List.mem_iff_getElem?.1 hother
  have hmem := (ShapeSchema.mem_columns_iff hp hs).2 ⟨left, slot, other, rfl, hslot, hlabels⟩
  have hascending := ShapeSchema.pairwise_columns hs
  rw [hcolumns] at hascending hmem
  obtain ⟨value, hvalue⟩ := hbefore _ (mem_of_key_lt hascending hmem hleft)
  exact ⟨value, (convertsTo_of_convertColumn hprepare hslot).1 value hvalue⟩

/-! ## Sheets -/

namespace Records

/-- A line after the header is the line of the bytes that its number says, the marker being no line of its own. -/
theorem Opened.physical {shape : Shape α} {body : List UInt8} {prepared : ShapeSchema} {header : RawLine}
    {records : Records α} (ho : Opened shape body prepared header records) {number : Nat} {cells : RawLine}
    (hm : (number, .ok cells) ∈ records.lines.toList) :
    ∃ piece, 0 < number ∧ (splitOn lineFeed (headerMarker :: body))[number - 1]? = some piece ∧
      splitCells number (withoutLast carriageReturn piece) = .ok cells := by
  have hheader : (records.lines.number, .ok header) ∈ (Lines.ofBytes body).toList := ho.lines_eq ▸ List.mem_cons_self
  obtain ⟨-, hfirst, -, -, -⟩ := Lines.exists_piece_of_mem hheader
  obtain ⟨piece, hpositive, hpiece, -, hcells⟩ := Lines.exists_piece_of_mem (ho.mem_ofBytes hm)
  have hascending := Lines.pairwise_numbered 0 (segments body)
  have hafter : records.lines.number < number := by
    have hlist : Lines.numbered 0 (segments body) = _ := ho.lines_eq
    rw [hlist] at hascending
    exact (List.pairwise_cons.1 hascending).1 _ hm
  obtain ⟨before, rfl⟩ : ∃ before, number = before + 2 := ⟨number - 2, by omega⟩
  refine ⟨piece, hpositive, ?_, hcells.symm⟩
  have htail := congrArg (·[before]?) (tail_splitOn_cons (show headerMarker ≠ lineFeed by decide) body)
  simp only [List.getElem?_tail] at htail
  exact htail.trans hpiece

/-- A sheet that cannot be opened is not refused for a cell. -/
theorem code_ne_of_start {shape : Shape α} {bytes : List UInt8} {registry : Registry} (hv : registry.Valid)
    {error : SheetError} (h : (start shape bytes registry).1 = .error error) :
    error.fault.code ≠ "CENSUS_CONVERSION_FAILED" := by
  intro hcode
  rcases exists_of_start_error hv h with rfl | ⟨number, cause, rfl⟩ | hprepare | ⟨prepared, header, -, hresolve⟩
  · exact absurd hcode (by decide)
  · have hother : "CENSUS_INVALID_ENCODING" = "CENSUS_CONVERSION_FAILED" := hcode
    exact absurd hother (by decide)
  · have hcodes := ShapeSchema.code_of_prepare hprepare
    rw [hcode] at hcodes
    exact absurd hcodes (by decide)
  · have hcodes := ShapeSchema.code_of_resolve hresolve
    rw [hcode] at hcodes
    exact absurd hcodes (by decide)

end Records

/-- A sheet of a shape whose records are put together by readers that match its fields, and that is refused for a cell, is
refused for the first one that does not convert. The error is on the line of this cell and says its field, its text and why it
does not convert. -/
theorem firstBad_of_decodeAll {shape : Shape α} {readers : List SlotReader} (hb : shape.BuiltBy readers)
    {registry : Registry} (hv : registry.Valid) {bytes : List UInt8} {error : SheetError}
    (h : (decodeAll shape bytes registry).1 = .error error) (hcode : error.fault.code = "CENSUS_CONVERSION_FAILED") :
    ∃ (body : List UInt8) (prepared : ShapeSchema) (header : RawLine) (records : Records α) (place : CellPlace)
      (cause : ConvertError), bytes = headerMarker :: body ∧
      Records.Opened shape body prepared header records ∧
      error = ⟨.conversion shape.declaration.shape place.field.name place.raw cause, some place.number⟩ ∧
      place.FirstBad shape bytes header records cause := by
  rw [decodeAll_eq hv] at h
  rcases exists_of_bind_error h with hstart | ⟨records, hstart, hcollect⟩
  · exact absurd hcode (Records.code_ne_of_start Registry.valid_empty hstart)
  · obtain ⟨body, prepared, header, rfl, ho⟩ := Records.exists_opened Registry.valid_empty hstart
    rw [Records.collect, ho.unfinished, ho.shape_eq] at hcollect
    obtain ⟨before, number, line, after, hlines, hbefore, hbad⟩ := Records.exists_of_collectLines_error hcollect
    have hmem : (number, line) ∈ records.lines.toList := hlines ▸ List.mem_append_right before List.mem_cons_self
    rcases hbad with rfl | ⟨cells, rfl, hrecord⟩
    · obtain ⟨cause, rfl⟩ := Lines.exists_of_error_mem (ho.mem_ofBytes hmem)
      have hother : "CENSUS_INVALID_ENCODING" = "CENSUS_CONVERSION_FAILED" := hcode
      exact absurd hother (by decide)
    · obtain ⟨column, field, cause, rfl, hfield, hlabel, hrefused, hleft⟩ :=
        exists_column_of_materialize_error hb ho.prepare_eq ho.resolve_eq (ho.cut hmem) hrecord
      refine ⟨body, prepared, header, records, ⟨number, cells, column, field⟩, cause, rfl, ho, rfl,
        ho.physical hmem, hmem, hfield, hlabel, hrefused, hleft, fun earlier line hline hlt => ?_⟩
      have hascending : records.lines.toList.Pairwise (·.1 < ·.1) := Lines.pairwise_numbered _ _
      rw [hlines] at hascending hline
      exact hbefore _ (mem_of_key_lt hascending hline hlt)

/-- A sheet of images with a blank line and a column without a label. Of the two cells of the last line that do not convert, it is
the one on the left that the error is about, and not the one whose field is declared first. -/
theorem firstBad_of_decodeAll_images :
    ∃ (body : List UInt8) (prepared : ShapeSchema) (header : RawLine) (records : Records ImageSetMapping) (place : CellPlace),
      encodeUtf8 "#image_set_id^^image_type^image_id\n\n1^x^Small^2\r\n3^^Huge^4x\n" = headerMarker :: body ∧
      Records.Opened ImageSetMapping.shape body prepared header records ∧
      place.FirstBad ImageSetMapping.shape (encodeUtf8 "#image_set_id^^image_type^image_id\n\n1^x^Small^2\r\n3^^Huge^4x\n")
        header records (.unknownMember "Huge") ∧
      place.number = 4 ∧ place.field.name = "image_type" ∧ place.raw = some "Huge" := by
  have hread : (decodeAll ImageSetMapping.shape
      (encodeUtf8 "#image_set_id^^image_type^image_id\n\n1^x^Small^2\r\n3^^Huge^4x\n") .empty).1 =
    .error ⟨.conversion "ImageSetMapping" "image_type" (some "Huge") (.unknownMember "Huge"), some 4⟩ := by decide +kernel
  obtain ⟨body, prepared, header, records, place, cause, hbytes, hopened, herror, hbad⟩ :=
    firstBad_of_decodeAll ImageSetMapping.readBy.builtBy Registry.valid_empty hread rfl
  obtain ⟨hfault, hnumber⟩ := SheetError.mk.inj herror
  obtain ⟨-, hname, hraw, rfl⟩ := Fault.conversion.inj hfault
  exact ⟨body, prepared, header, records, place, hbytes, hopened, hbad, (Option.some.inj hnumber).symm, hname.symm, hraw.symm⟩

end SheetQuery.Sheet
