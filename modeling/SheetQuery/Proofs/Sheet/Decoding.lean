import SheetQuery.Proofs.Decimal.Widening
import SheetQuery.Proofs.Sheet.Opening
import SheetQuery.Proofs.Sheet.Reader

/-!
# Values that are read

Whatever the bytes of a sheet are, a slot of a record that is read from them has null where its field takes null, or a value of
the type of its field; and a text that is read is not empty and has neither a caret nor a line feed. This holds cell by cell,
since the converter of a field makes nothing else, and slot by slot, since a header that leaves a slot without a column is
accepted only if its field takes null.
-/

namespace SheetQuery.Sheet

open Decimal Text

variable {α : Type}

/-- Whether a value, if it is a text, can come out of a line. -/
def SlotValue.Cut : SlotValue → Prop
  | .text s => IsCut s
  | _ => True

/-- Whether a value can be one that is read for a field. -/
def Field.Yields (field : Field) (value : SlotValue) : Prop :=
  field.Admits value ∧ value.Cut

/-- Whether a record can be one that is read: its slots have values that can be read for their fields, and it is put together
again from them. -/
def Shape.Yields (shape : Shape α) (record : α) : Prop :=
  List.Forall₂ Field.Yields shape.declaration.fields (shape.toSlots record) ∧
    shape.build (shape.toSlots record) = .ok record

/-! ## Cells -/

/-- A number or a word that is read as a truth value is one of the two. -/
theorem exists_of_readBool {cell : String} {value : SlotValue} (h : readBool cell = .ok value) :
    ∃ b, value = .bool b := by
  simp only [readBool] at h
  split at h
  · exact ⟨false, (Except.ok.inj h).symm⟩
  · split at h
    · exact ⟨true, (Except.ok.inj h).symm⟩
    · split at h
      · exact ⟨true, (Except.ok.inj h).symm⟩
      · split at h
        · exact ⟨false, (Except.ok.inj h).symm⟩
        · nomatch h

/-- The value that is read from a cell is one of the type of the cell. -/
theorem holds_of_read {type : FieldType} {reader : CellReader} (hr : CellReader.ofType? type = some reader)
    {cell : String} {value : SlotValue} (h : reader.read cell = .ok value) : type.Holds value := by
  cases type with
  | bool =>
    obtain rfl := Option.some.inj hr
    obtain ⟨b, rfl⟩ := exists_of_readBool h
    trivial
  | int width =>
    obtain rfl := Option.some.inj hr
    rw [CellReader.read, readInt] at h
    cases hi : readInteger width cell.toList with
    | error e => rw [hi] at h; cases h
    | ok i =>
      rw [hi] at h
      exact ⟨i, holds_of_readInteger hi, (Except.ok.inj h).symm⟩
  | single =>
    obtain rfl := Option.some.inj hr
    obtain ⟨x, -, rfl⟩ := exists_of_map_ok h
    exact congrArg (Binary.convert .double) (convert_convert x)
  | double | decimal =>
    obtain rfl := Option.some.inj hr
    obtain ⟨x, -, rfl⟩ := exists_of_map_ok h
    trivial
  | text =>
    obtain rfl := Option.some.inj hr
    obtain rfl : SlotValue.text cell = value := Except.ok.inj h
    trivial
  | enum members =>
    obtain rfl := Option.some.inj hr
    rw [CellReader.read, readMember] at h
    cases hi : members.findIdx? (· == cell) with
    | none => rw [hi] at h; cases h
    | some index =>
      rw [hi] at h
      obtain rfl : SlotValue.enum index = value := Except.ok.inj h
      obtain ⟨hlt, -, -⟩ := List.findIdx?_eq_some_iff_getElem.1 hi
      exact hlt
  | list element => cases hr

/-- A text that is read is the text of the cell. -/
theorem cut_of_read {type : FieldType} {reader : CellReader} (hr : CellReader.ofType? type = some reader)
    {cell : String} (hcell : IsCut cell) {value : SlotValue} (h : reader.read cell = .ok value) : value.Cut := by
  have hholds := holds_of_read hr h
  cases value with
  | text s =>
    -- Only the fields for texts hold texts.
    cases type with
    | text =>
      obtain rfl := Option.some.inj hr
      obtain rfl : cell = s := SlotValue.text.inj (Except.ok.inj h)
      exact hcell
    | int width =>
      obtain ⟨i, -, hi⟩ := hholds
      rw [SlotValue.ofInt] at hi
      split at hi <;> cases hi
    | _ => cases hholds
  | _ => trivial

/-- The converter of a field makes values that can be read for the field. -/
theorem yields_of_convert {shape : String} {field : Field} {converter : Converter}
    (hc : Converter.ofField shape field = .ok converter) {raw : Option String} (hraw : ∀ text, raw = some text → IsCut text)
    {value : SlotValue} (h : converter.convert raw = .ok value) : field.Yields value := by
  rw [Converter.ofField] at hc
  cases hr : CellReader.ofType? field.type with
  | none => rw [hr] at hc; cases hc
  | some reader =>
    rw [hr] at hc
    obtain rfl := Except.ok.inj hc
    cases raw with
    | none =>
      rw [Converter.convert] at h
      split at h
      · rename_i hnullable
        obtain rfl := Except.ok.inj h
        exact ⟨.inl ⟨rfl, hnullable⟩, trivial⟩
      · cases h
    | some cell => exact ⟨.inr (holds_of_read hr h), cut_of_read hr (hraw cell rfl) h⟩

/-! ## Lines -/

/-- The cell of a column is converted as the field of its slot says. -/
theorem convertColumn_eq {declaration : Declaration} {schema : Schema}
    (hp : ShapeSchema.prepare declaration = .ok schema.shape) {column : Column} {field : Field}
    (hf : declaration.fields[column.slot]? = some field) :
    ∃ converter, Converter.ofField declaration.shape field = .ok converter ∧ ∀ cells : RawLine,
      convertColumn schema cells column = (converter.convert (cells[column.column]?).join).mapError fun cause =>
        .ofFault (.conversion declaration.shape field.name (cells[column.column]?).join cause) := by
  obtain ⟨-, hdecl, hconverters, -, -⟩ := ShapeSchema.prepare_ok hp
  obtain ⟨hslot, hfield⟩ := List.getElem?_eq_some_iff.1 hf
  have hslot' : column.slot < schema.shape.converters.length := hconverters.length_eq ▸ hslot
  have hconverter := hconverters.get hslot hslot'
  have hget : schema.shape.converters[column.slot]? = some (schema.shape.converters.get ⟨column.slot, hslot'⟩) :=
    List.getElem?_eq_getElem hslot'
  rw [List.get_eq_getElem, hfield] at hconverter
  refine ⟨_, hconverter, fun cells => ?_⟩
  simp only [convertColumn, hget, hdecl, hf]
  cases (schema.shape.converters.get ⟨column.slot, hslot'⟩).convert (cells[column.column]?).join <;> rfl

/-- The column of a slot gives a value that can be read for the field of the slot. -/
theorem yields_of_convertColumn {declaration : Declaration} {schema : Schema}
    (hp : ShapeSchema.prepare declaration = .ok schema.shape) {cells : RawLine} (hcells : cells.Cut) {column : Column}
    {value : SlotValue} (h : convertColumn schema cells column = .ok value) {field : Field}
    (hf : declaration.fields[column.slot]? = some field) : field.Yields value := by
  obtain ⟨converter, hconverter, hcolumn⟩ := convertColumn_eq hp hf
  rw [hcolumn] at h
  cases hconvert : converter.convert (cells[column.column]?).join with
  | error e => rw [hconvert] at h; nomatch h
  | ok converted =>
    rw [hconvert] at h
    obtain rfl := Except.ok.inj h
    refine yields_of_convert hconverter (fun text ht => hcells text ?_) hconvert
    exact List.mem_of_getElem? (Option.join_eq_some_iff.1 ht)

/-- What holds of the values of all columns, and of the values before wherever there is no column, holds of the filled slots. -/
theorem forall_of_fillSlots {schema : Schema} {cells : RawLine} {P : Nat → SlotValue → Prop} {columns : List Column}
    {values filled : List SlotValue} (h : fillSlots schema cells columns values = .ok filled)
    (hcolumn : ∀ column value, convertColumn schema cells column = .ok value → P column.slot value)
    (hbefore : ∀ slot value, values[slot]? = some value → P slot value ∨ slot ∈ columns.map Column.slot) :
    filled.length = values.length ∧ ∀ slot value, filled[slot]? = some value → P slot value := by
  induction columns generalizing values with
  | nil =>
    obtain rfl := Except.ok.inj h
    exact ⟨rfl, fun slot value hv => (hbefore slot value hv).resolve_right List.not_mem_nil⟩
  | cons column columns ih =>
    rw [fillSlots] at h
    obtain ⟨converted, hconverted, h⟩ := exists_of_bind_ok h
    obtain ⟨hlen, hfilled⟩ := ih h (fun slot value hv => by
      rw [List.getElem?_set] at hv
      split at hv
      · rename_i hslot
        subst hslot
        split at hv
        · obtain rfl := Option.some.inj hv
          exact .inl (hcolumn column converted hconverted)
        · nomatch hv
      · rename_i hslot
        rcases hbefore slot value hv with hP | hm
        · exact .inl hP
        · exact .inr ((List.mem_cons.1 hm).resolve_left fun e => hslot e.symm))
    exact ⟨hlen.trans List.length_set, hfilled⟩

/-- The values of a line can be read for their fields. -/
theorem yields_of_slotValues {declaration : Declaration} {prepared : ShapeSchema}
    (hp : ShapeSchema.prepare declaration = .ok prepared) {header : RawLine} {schema : Schema}
    (hs : prepared.resolve header = .ok schema) {cells : RawLine} (hcells : cells.Cut) {values : List SlotValue}
    (h : slotValues schema cells = .ok values) : List.Forall₂ Field.Yields declaration.fields values := by
  obtain ⟨hshape, hcovered⟩ := ShapeSchema.resolve_ok hs
  have hdecl := (ShapeSchema.prepare_ok hp).2.1
  rw [← hshape] at hp hdecl
  obtain ⟨hlen, hvalues⟩ := forall_of_fillSlots
    (P := fun slot value => ∀ field, declaration.fields[slot]? = some field → field.Yields value) h
    (fun column value hv field hf => yields_of_convertColumn hp hcells hv hf)
    (fun slot value hv => by
      rw [List.getElem?_replicate] at hv
      split at hv
      · rename_i hslot
        obtain rfl := Option.some.inj hv
        by_cases hm : slot ∈ schema.columns.map Column.slot
        · exact .inr hm
        · refine .inl fun field hf => ⟨.inl ⟨rfl, ?_⟩, trivial⟩
          rw [← hdecl, hshape] at hf
          exact (hcovered slot field hf).resolve_right hm
      · nomatch hv)
  rw [List.length_replicate, ShapeSchema.slotCount, hdecl] at hlen
  refine List.forall₂_iff_get.2 ⟨hlen.symm, fun i hi hi' => ?_⟩
  exact hvalues i _ (List.getElem?_eq_getElem hi') _ (List.getElem?_eq_getElem hi)

/-! ## Records -/

/-- A record that is put together from values that can be read is one that can be read. -/
theorem Shape.ReadBy.yields_of_build {shape : Shape α} {readers : List SlotReader} (hr : shape.ReadBy readers)
    {values : List SlotValue} (hv : List.Forall₂ Field.Yields shape.declaration.fields values) {record : α}
    (h : shape.build values = .ok record) : shape.Yields record := by
  obtain ⟨built, hbuild, hslots⟩ := hr.build_of_admits (hv.imp fun _ _ hy => hy.1)
  obtain rfl : built = record := Except.ok.inj (hbuild.symm.trans h)
  rw [Shape.Yields, hslots]
  exact ⟨hv, h⟩

/-- The record of a line is one that can be read. -/
theorem yields_of_materialize {shape : Shape α} {readers : List SlotReader} (hr : shape.ReadBy readers)
    {prepared : ShapeSchema} (hp : ShapeSchema.prepare shape.declaration = .ok prepared) {header : RawLine}
    {schema : Schema} (hs : prepared.resolve header = .ok schema) {cells : RawLine} (hcells : cells.Cut) {number : Nat}
    {record : α} (h : materialize shape schema cells number = .ok record) : shape.Yields record := by
  rw [materialize] at h
  cases hb : (slotValues schema cells).bind shape.build with
  | error e => rw [hb] at h; nomatch h
  | ok built =>
    rw [hb] at h
    obtain rfl := Except.ok.inj h
    obtain ⟨values, hv, hb⟩ := exists_of_bind_ok hb
    exact hr.yields_of_build (yields_of_slotValues hp hs hcells hv) hb

/-- The records of lines are ones that can be read. -/
theorem yields_of_collectLines {shape : Shape α} {readers : List SlotReader} (hr : shape.ReadBy readers)
    {prepared : ShapeSchema} (hp : ShapeSchema.prepare shape.declaration = .ok prepared) {header : RawLine}
    {schema : Schema} (hs : prepared.resolve header = .ok schema) {lines : List (Nat × Except SheetError RawLine)}
    (hlines : ∀ number cells, (number, .ok cells) ∈ lines → RawLine.Cut cells) {records : List α}
    (h : Records.collectLines shape schema lines = .ok records) : ∀ record ∈ records, shape.Yields record := by
  induction lines generalizing records with
  | nil =>
    obtain rfl := Except.ok.inj h
    intro record hm
    nomatch hm
  | cons line lines ih =>
    obtain ⟨number, line⟩ := line
    rw [Records.collectLines] at h
    obtain ⟨cells, hline, hrecord⟩ := exists_of_bind_ok h
    obtain ⟨first, hfirst, hrecords⟩ := exists_of_bind_ok hrecord
    obtain ⟨rest, hrest, hall⟩ := exists_of_bind_ok hrecords
    obtain rfl := Except.ok.inj hall
    have hcells := hlines number cells (hline ▸ List.mem_cons_self)
    have hothers := ih (fun n c hn => hlines n c (List.mem_cons_of_mem _ hn)) hrest
    intro record hrecord
    rcases List.mem_cons.1 hrecord with rfl | hrecord
    · exact yields_of_materialize hr hp hs hcells hfirst
    · exact hothers record hrecord

/-! ## Sheets -/

/-- Every record of a sheet that is read is one that can be read: this is all that the bytes can bring about. -/
theorem yields_of_decodeAll {shape : Shape α} {readers : List SlotReader} (hr : shape.ReadBy readers)
    {registry : Registry} (hv : registry.Valid) {bytes : List UInt8} {records : List α}
    (h : (decodeAll shape bytes registry).1 = .ok records) : ∀ record ∈ records, shape.Yields record := by
  obtain ⟨records', hopened, hcollect⟩ := exists_of_bind_ok h
  obtain ⟨body, prepared, header, -, hopened⟩ := Records.exists_opened hv hopened
  rw [Records.collect, hopened.unfinished, hopened.shape_eq] at hcollect
  exact yields_of_collectLines hr hopened.prepare_eq hopened.resolve_eq (fun _ _ => hopened.cut) hcollect

end SheetQuery.Sheet
