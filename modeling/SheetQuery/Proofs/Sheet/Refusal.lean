import SheetQuery.Proofs.Sheet.Client
import SheetQuery.Proofs.Sheet.Columns
import SheetQuery.Proofs.Sheet.Decoding

/-!
# Why sheets are refused

A sheet of a shape that can be prepared is refused for its marker, for a line that is no text, for its header or for a cell, and
for nothing else: once a header resolves and the cells of a line convert, every slot has a value that the reader of its field
takes, so that the record of the line is put together.
-/

namespace SheetQuery.Sheet

open Text

variable {α : Type}

/-! ## Shapes -/

/-- Whether the records of a shape are put together by readers that match its fields, one after the other: values are refused
exactly if one of the readers refuses its own, and for the reason of the first that does. -/
structure Shape.BuiltBy (shape : Shape α) (readers : List SlotReader) : Prop where
  matching : List.Forall₂ SlotReader.Matches readers shape.declaration.fields
  refuses : ∀ values, error? (shape.build values) = error? ((Shape.ofReaders shape.declaration readers).build values)

/-- Records that are taken apart into what the readers read are put together by them. -/
theorem Shape.ReadBy.builtBy {shape : Shape α} {readers : List SlotReader} (h : shape.ReadBy readers) :
    shape.BuiltBy readers := by
  refine ⟨h.matching, fun values => ?_⟩
  rw [← h.reads values]
  cases shape.build values <;> rfl

/-- A record is put together from values that its fields admit. -/
theorem Shape.BuiltBy.exists_build {shape : Shape α} {readers : List SlotReader} (h : shape.BuiltBy readers)
    {values : List SlotValue} (hv : List.Forall₂ Field.Admits shape.declaration.fields values) :
    ∃ record, shape.build values = .ok record := by
  have hread := SlotReader.readAll_of_admits h.matching hv shape.declaration 0
  have hbuild : (Shape.ofReaders shape.declaration readers).build values = .ok values := congrArg Prod.fst hread
  rw [← error?_eq_none_iff, h.refuses, hbuild]
  rfl

/-! ## Headers -/

namespace ShapeSchema

/-- Fields cannot be prepared for a type that no sheet can hold or for a name that comes twice. -/
theorem code_of_prepareFields {shape : String} {taken : List String} {fields : List Field} {error : SheetError}
    (h : prepareFields shape taken fields = .error error) :
    error.fault.code ∈ ["CENSUS_SCHEMA_UNSUPPORTED_TYPE", "CENSUS_SCHEMA_DUPLICATE_LABEL"] := by
  induction fields generalizing taken with
  | nil => cases h
  | cons field fields ih =>
    rw [prepareFields] at h
    rcases exists_of_bind_error h with hconverter | ⟨converter, -, hrest⟩
    · rw [Converter.ofField] at hconverter
      split at hconverter
      · cases hconverter
      · obtain rfl := Except.error.inj hconverter
        exact List.mem_cons_self
    · simp only at hrest
      split at hrest
      · obtain rfl := Except.error.inj hrest
        exact List.mem_cons_of_mem _ List.mem_cons_self
      · rcases exists_of_bind_error hrest with hfields | ⟨prepared, -, hprepared⟩
        · exact ih hfields
        · cases hprepared

/-- A shape cannot be prepared for lack of fields, for a type that no sheet can hold or for a name that comes twice. -/
theorem code_of_prepare {declaration : Declaration} {error : SheetError} (h : prepare declaration = .error error) :
    error.fault.code ∈
      ["CENSUS_SCHEMA_NO_FIELDS", "CENSUS_SCHEMA_UNSUPPORTED_TYPE", "CENSUS_SCHEMA_DUPLICATE_LABEL"] := by
  rw [prepare] at h
  split at h
  · obtain rfl := Except.error.inj h
    exact List.mem_cons_self
  · rcases exists_of_bind_error h with hfields | ⟨prepared, -, hprepared⟩
    · exact List.mem_cons_of_mem _ (code_of_prepareFields hfields)
    · cases hprepared

/-- Columns are not assigned for a label that names no field or for one that names a field again. -/
theorem code_of_assign {schema : ShapeSchema} {position : Nat} {covered : List Nat} {header : RawLine} {error : SheetError}
    (h : schema.assign position covered header = .error error) :
    error.fault.code ∈ ["CENSUS_SCHEMA_UNKNOWN_LABEL", "CENSUS_SCHEMA_DUPLICATE_LABEL"] := by
  obtain ⟨before, label, after, columns, -, -, ⟨-, rfl⟩ | ⟨slot, -, -, rfl⟩⟩ := exists_of_assign_error h
  · exact List.mem_cons_self
  · exact List.mem_cons_of_mem _ List.mem_cons_self

/-- A header does not resolve for a label that names no field, for one that names a field again or for a field without one. -/
theorem code_of_resolve {schema : ShapeSchema} {header : RawLine} {error : SheetError}
    (h : schema.resolve header = .error error) :
    error.fault.code ∈
      ["CENSUS_SCHEMA_UNKNOWN_LABEL", "CENSUS_SCHEMA_DUPLICATE_LABEL", "CENSUS_SCHEMA_MISSING_COLUMN"] := by
  rw [resolve] at h
  rcases exists_of_bind_error h with hcolumns | ⟨columns, -, hcovered⟩
  · exact List.mem_append_left ["CENSUS_SCHEMA_MISSING_COLUMN"] (code_of_assign hcolumns)
  · split at hcovered
    · obtain rfl := Except.error.inj hcovered
      exact List.mem_append_right ["CENSUS_SCHEMA_UNKNOWN_LABEL", "CENSUS_SCHEMA_DUPLICATE_LABEL"] List.mem_cons_self
    · cases hcovered

end ShapeSchema

/-- A line cannot be split into cells if it is no text. -/
theorem exists_of_splitCells_error {number : Nat} {content : List UInt8} {error : SheetError}
    (h : splitCells number content = .error error) : ∃ cause, error = .ofFault (.invalidEncoding number cause) := by
  have hread := readsAs_splitCells number content
  rw [h] at hread
  cases hread with
  | fault cause => exact ⟨cause, rfl⟩

/-- A line of bytes that cannot be read is no text. -/
theorem Lines.exists_of_error_mem {bytes : List UInt8} {number : Nat} {error : SheetError}
    (h : (number, .error error) ∈ (ofBytes bytes).toList) : ∃ cause, error = .ofFault (.invalidEncoding number cause) := by
  obtain ⟨piece, -, -, -, hline⟩ := exists_piece_of_mem h
  exact exists_of_splitCells_error hline.symm

/-- Bytes are refused as a whole for lack of the marker only. -/
theorem Lines.eq_of_withHeader_error {bytes : List UInt8} {error : SheetError} (h : withHeader bytes = .error error) :
    error = .ofFault .missingHeader := by
  cases bytes with
  | nil => exact (Except.error.inj h).symm
  | cons b rest =>
    rw [withHeader] at h
    split at h
    · cases h
    · exact (Except.error.inj h).symm

/-- A sheet cannot be opened for lack of a header, for a header that is no text or that does not resolve, or for a shape that
cannot be prepared. -/
theorem Records.exists_of_start_error {shape : Shape α} {bytes : List UInt8} {registry : Registry} (hv : registry.Valid)
    {error : SheetError} (h : (start shape bytes registry).1 = .error error) :
    error = .ofFault .missingHeader ∨ (∃ number cause, error = .ofFault (.invalidEncoding number cause)) ∨
      ShapeSchema.prepare shape.declaration = .error error ∨
      ∃ prepared header, ShapeSchema.prepare shape.declaration = .ok prepared ∧ prepared.resolve header = .error error := by
  rw [start_eq hv] at h
  rcases exists_of_bind_error h with hlines | ⟨lines, hlines, h⟩
  · exact .inl (Lines.eq_of_withHeader_error hlines)
  · obtain ⟨body, -, rfl⟩ := Lines.withHeader_eq_ok_iff.1 hlines
    rcases (Lines.ofBytes body).next_cases with ⟨rest, hnext, -, -⟩ | ⟨line, rest, hnext, hcons⟩
    · rw [hnext] at h
      exact .inl (Except.error.inj h).symm
    · rw [hnext] at h
      refine .inr ?_
      rcases exists_of_bind_error h with hline | ⟨header, -, hschema⟩
      · obtain rfl : line = .error error := hline
        have hmem : (rest.number, Except.error error) ∈ (Lines.ofBytes body).toList := hcons ▸ List.mem_cons_self
        obtain ⟨cause, hcause⟩ := Lines.exists_of_error_mem hmem
        exact .inl ⟨_, cause, hcause⟩
      · refine .inr ?_
        rcases exists_of_bind_error hschema with hprepare | ⟨prepared, hprepared, hresolve⟩
        · exact .inl hprepare
        · rcases exists_of_bind_error hresolve with hresolve | ⟨schema, -, hopened⟩
          · exact .inr ⟨prepared, header, hprepared, hresolve⟩
          · cases hopened

/-! ## Lines -/

/-- A column that does not convert is one whose cell is refused. -/
theorem exists_of_convertColumn_error {schema : Schema} {cells : RawLine} {column : Column} {error : SheetError}
    (h : convertColumn schema cells column = .error error) :
    ∃ shape field raw cause, error = .ofFault (.conversion shape field raw cause) := by
  simp only [convertColumn] at h
  split at h
  · split at h
    · cases h
    · exact ⟨_, _, _, _, (Except.error.inj h).symm⟩
  · cases h

/-- Slots that are not filled have a first column that does not convert. -/
theorem exists_of_fillSlots_error {schema : Schema} {cells : RawLine} {columns : List Column} {values : List SlotValue}
    {error : SheetError} (h : fillSlots schema cells columns values = .error error) :
    ∃ left column right, columns = left ++ column :: right ∧
      (∀ other ∈ left, ∃ value, convertColumn schema cells other = .ok value) ∧
      convertColumn schema cells column = .error error := by
  induction columns generalizing values with
  | nil => cases h
  | cons column columns ih =>
    rw [fillSlots] at h
    rcases exists_of_bind_error h with hcolumn | ⟨value, hcolumn, hrest⟩
    · exact ⟨[], column, columns, rfl, fun _ hm => absurd hm List.not_mem_nil, hcolumn⟩
    · obtain ⟨left, bad, right, rfl, hleft, hbad⟩ := ih hrest
      refine ⟨column :: left, bad, right, rfl, fun other hm => ?_, hbad⟩
      rcases List.mem_cons.1 hm with rfl | hm
      · exact ⟨value, hcolumn⟩
      · exact hleft other hm

/-- The record of a line is refused for the first of its columns that does not convert, and for nothing else. -/
theorem exists_of_materialize_error {shape : Shape α} {readers : List SlotReader} (hb : shape.BuiltBy readers)
    {prepared : ShapeSchema} (hp : ShapeSchema.prepare shape.declaration = .ok prepared) {header : RawLine}
    {schema : Schema} (hs : prepared.resolve header = .ok schema) {cells : RawLine} (hcells : cells.Cut) {number : Nat}
    {error : SheetError} (h : materialize shape schema cells number = .error error) :
    ∃ fault, slotValues schema cells = .error fault ∧ error = fault.atLine number := by
  rw [materialize] at h
  cases hvalues : slotValues schema cells with
  | error fault =>
    rw [hvalues] at h
    exact ⟨fault, rfl, (Except.error.inj h).symm⟩
  | ok values =>
    have hyields := yields_of_slotValues hp hs hcells hvalues
    obtain ⟨record, hrecord⟩ := hb.exists_build (hyields.imp fun _ _ hy => hy.1)
    simp only [hvalues, Except.bind, hrecord] at h
    cases h

/-- Lines are refused for the first of them that gives no record. -/
theorem Records.exists_of_collectLines_error {shape : Shape α} {schema : Schema}
    {lines : List (Nat × Except SheetError RawLine)} {error : SheetError}
    (h : collectLines shape schema lines = .error error) :
    ∃ before number line after, lines = before ++ (number, line) :: after ∧
      (∀ earlier ∈ before, ∃ cells record, earlier.2 = .ok cells ∧
        materialize shape schema cells earlier.1 = .ok record) ∧
      (line = .error error ∨ ∃ cells, line = .ok cells ∧ materialize shape schema cells number = .error error) := by
  induction lines with
  | nil => cases h
  | cons first lines ih =>
    obtain ⟨number, line⟩ := first
    rw [collectLines] at h
    rcases exists_of_bind_error h with hline | ⟨cells, hline, hrecord⟩
    · exact ⟨[], number, line, lines, rfl, fun _ hm => absurd hm List.not_mem_nil, .inl hline⟩
    · rcases exists_of_bind_error hrecord with hfirst | ⟨record, hfirst, hrest⟩
      · exact ⟨[], number, line, lines, rfl, fun _ hm => absurd hm List.not_mem_nil, .inr ⟨cells, hline, hfirst⟩⟩
      · rcases exists_of_bind_error hrest with hrest | ⟨records, -, hall⟩
        · obtain ⟨before, bad, badLine, after, rfl, hbefore, hbad⟩ := ih hrest
          refine ⟨(number, line) :: before, bad, badLine, after, rfl, fun earlier hm => ?_, hbad⟩
          rcases List.mem_cons.1 hm with rfl | hm
          · exact ⟨cells, record, hline, hfirst⟩
          · exact hbefore earlier hm
        · cases hall

/-! ## Sheets -/

/-- The codes of the errors that bytes can bring about when they are read as a sheet. -/
def readingCodes : List String :=
  ["CENSUS_MISSING_HEADER", "CENSUS_INVALID_ENCODING", "CENSUS_SCHEMA_UNKNOWN_LABEL", "CENSUS_SCHEMA_DUPLICATE_LABEL",
    "CENSUS_SCHEMA_MISSING_COLUMN", "CENSUS_CONVERSION_FAILED"]

/-- Whether all bytes can be read as a sheet of a shape but for errors that bytes can bring about. -/
def Shape.Readable (shape : Shape α) : Prop :=
  ∀ (bytes : List UInt8) (registry : Registry), registry.Valid →
    (∃ records, (decodeAll shape bytes registry).1 = .ok records) ∨
      ∃ error, (decodeAll shape bytes registry).1 = .error error ∧ error.fault.code ∈ readingCodes

/-- A sheet that cannot be opened, of a shape that can be prepared, is refused for what its bytes are. -/
theorem Records.code_of_start {shape : Shape α} {schema : ShapeSchema}
    (hp : ShapeSchema.prepare shape.declaration = .ok schema) {bytes : List UInt8} {registry : Registry}
    (hv : registry.Valid) {error : SheetError} (h : (start shape bytes registry).1 = .error error) :
    error.fault.code ∈ readingCodes := by
  rcases exists_of_start_error hv h with rfl | ⟨number, cause, rfl⟩ | hprepare | ⟨prepared, header, -, hresolve⟩
  · exact List.mem_cons_self
  · exact List.mem_cons_of_mem _ List.mem_cons_self
  · rw [hp] at hprepare
    cases hprepare
  · have hcode := ShapeSchema.code_of_resolve hresolve
    simp only [readingCodes, List.mem_cons] at hcode ⊢
    tauto

/-- The record of a line of cells is refused for a cell only. -/
theorem code_of_slotValues {schema : Schema} {cells : RawLine} {error : SheetError}
    (h : slotValues schema cells = .error error) : error.fault.code ∈ readingCodes := by
  obtain ⟨left, column, right, -, -, hcolumn⟩ := exists_of_fillSlots_error h
  obtain ⟨shape, field, raw, cause, rfl⟩ := exists_of_convertColumn_error hcolumn
  have hcode : "CENSUS_CONVERSION_FAILED" ∈ readingCodes := by decide
  exact hcode

/-- A sheet that has been opened is refused for a line of it or for a cell. -/
theorem Records.code_of_collect {shape : Shape α} {readers : List SlotReader} (hb : shape.BuiltBy readers) {body : List UInt8}
    {prepared : ShapeSchema} {header : RawLine} {records : Records α} (ho : Opened shape body prepared header records)
    {error : SheetError} (h : records.collect = .error error) : error.fault.code ∈ readingCodes := by
  rw [collect, ho.unfinished, ho.shape_eq] at h
  obtain ⟨before, number, line, after, hlines, -, hbad⟩ := exists_of_collectLines_error h
  have hmem : (number, line) ∈ records.lines.toList := hlines ▸ List.mem_append_right before List.mem_cons_self
  rcases hbad with rfl | ⟨cells, rfl, hrecord⟩
  · obtain ⟨cause, rfl⟩ := Lines.exists_of_error_mem (ho.mem_ofBytes hmem)
    exact List.mem_cons_of_mem _ List.mem_cons_self
  · obtain ⟨fault, hvalues, rfl⟩ := exists_of_materialize_error hb ho.prepare_eq ho.resolve_eq (ho.cut hmem) hrecord
    have hcode : fault.fault.code ∈ readingCodes := code_of_slotValues hvalues
    exact hcode

/-- All bytes can be read as a sheet of a shape that can be prepared and whose records are put together by readers that match
its fields, but for errors that bytes can bring about. -/
theorem Shape.BuiltBy.readable {shape : Shape α} {readers : List SlotReader} (hb : shape.BuiltBy readers)
    {schema : ShapeSchema} (hp : ShapeSchema.prepare shape.declaration = .ok schema) : shape.Readable := by
  intro bytes registry hv
  cases hread : (decodeAll shape bytes registry).1 with
  | ok records => exact .inl ⟨records, rfl⟩
  | error error =>
    refine .inr ⟨error, rfl, ?_⟩
    rw [decodeAll_eq hv] at hread
    rcases exists_of_bind_error hread with hstart | ⟨records, hstart, hcollect⟩
    · exact Records.code_of_start hp Registry.valid_empty hstart
    · obtain ⟨body, prepared, header, -, hopened⟩ := Records.exists_opened Registry.valid_empty hstart
      exact Records.code_of_collect hb hopened hcollect

/-- Whatever the bytes are, reading them as a sheet of currencies, of awards of experience, of factions or of images gives records
or an error that bytes can bring about, and so it is for every shape that can be prepared and whose records are put together by
readers that match its fields. No slot is ever found to be a misfit. -/
theorem readable_of_builtBy :
    (Currency.shape.Readable ∧ Experience.shape.Readable ∧ Faction.shape.Readable ∧ ImageSetMapping.shape.Readable) ∧
      ∀ {α : Type} (shape : Shape α) (schema : ShapeSchema) (readers : List SlotReader),
        ShapeSchema.prepare shape.declaration = .ok schema → shape.BuiltBy readers → shape.Readable := by
  refine ⟨⟨?_, ?_, ?_, ?_⟩, fun shape schema readers hp hb => hb.readable hp⟩
  · obtain ⟨schema, hschema⟩ := Currency.encodable
    exact hschema.readBy.builtBy.readable hschema.prepared
  · obtain ⟨schema, hschema⟩ := Experience.encodable
    exact hschema.readBy.builtBy.readable hschema.prepared
  · obtain ⟨schema, hschema⟩ := Faction.encodable
    exact hschema.readBy.builtBy.readable hschema.prepared
  · obtain ⟨schema, hschema⟩ := ImageSetMapping.encodable
    exact hschema.readBy.builtBy.readable hschema.prepared

/-- A shape of an amount and a size, read by readers of which one knows a size that is not declared. -/
theorem readable_of_builtBy_sizes :
    ∃ error, (decodeAll
        (Shape.ofReaders ⟨"Sizes", [⟨"amount", .int .u8, true⟩, ⟨"size", .enum ["Small", "Large"], false⟩]⟩
          [.int .u8 true, .member 3])
        (encodeUtf8 "#size^amount\nLarge\nSmall^256") .empty).1 = .error error ∧ error.fault.code ∈ readingCodes := by
  have hreadable := readable_of_builtBy.2
    (Shape.ofReaders ⟨"Sizes", [⟨"amount", .int .u8, true⟩, ⟨"size", .enum ["Small", "Large"], false⟩]⟩
      [.int .u8 true, .member 3]) _ [.int .u8 true, .member 3] rfl
    ⟨.cons ⟨rfl, rfl⟩ (.cons ⟨rfl, by decide⟩ .nil), fun _ => rfl⟩
  have hrefused : error? (decodeAll
      (Shape.ofReaders ⟨"Sizes", [⟨"amount", .int .u8, true⟩, ⟨"size", .enum ["Small", "Large"], false⟩]⟩
        [.int .u8 true, .member 3])
      (encodeUtf8 "#size^amount\nLarge\nSmall^256") .empty).1 ≠ none := by decide +kernel
  refine (hreadable _ _ Registry.valid_empty).resolve_left fun hread => hrefused ?_
  exact error?_eq_none_iff.2 hread

end SheetQuery.Sheet
