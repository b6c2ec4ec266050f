import Mathlib.Data.List.Nodup
import Mathlib.Data.List.ReduceOption
import SheetQuery.Proofs.Sheet.Schema
import SheetQuery.Sheet.Client

/-!
# Columns in another order

A header says what it says by its labels, and a line by the cells under them. Where a column stands, and what stands in a
column without a label, counts for neither: `resolve_ok_iff` states when a header resolves by its labels alone, and
`toOption_slotValues` what a line gives by its labelled cells alone. Both are the same for every order of them, so that a
table with its columns moved about is read as the same records.
-/

namespace SheetQuery.Sheet

/-! ## Tables -/

/-- The label of a column and the cell of a line under it. -/
abbrev LabelledCell := Option String × Option String

/-- A table of a header and a line has the columns of another, but for their order and for columns without a label. -/
inductive Rearranged : List LabelledCell → List LabelledCell → Prop
  /-- The columns, header and line alike, are put in another order. -/
  | perm {columns columns' : List LabelledCell} (h : columns.Perm columns') : Rearranged columns columns'
  /-- A column without a label is put in, whatever its cell is. -/
  | insert (before after : List LabelledCell) (cell : Option String) :
    Rearranged (before ++ after) (before ++ (none, cell) :: after)
  /-- A column without a label is taken out. -/
  | delete (before after : List LabelledCell) (cell : Option String) :
    Rearranged (before ++ (none, cell) :: after) (before ++ after)
  | trans {columns columns' columns'' : List LabelledCell} (h : Rearranged columns columns')
    (h' : Rearranged columns' columns'') : Rearranged columns columns''

/-- A line brought to a width: cells that it lacks are empty, and cells past the width are left out. -/
def RawLine.fitted (cells : RawLine) (width : Nat) : RawLine :=
  (List.range width).map fun i => (cells[i]?).join

/-- The labels of columns that have one, each with its cell. -/
def labelled (columns : List LabelledCell) : List (String × Option String) :=
  columns.filterMap fun column => column.1.map (·, column.2)

/-- Moving columns about moves the labelled ones about. -/
theorem Rearranged.perm_labelled {columns columns' : List LabelledCell} (h : Rearranged columns columns') :
    (labelled columns).Perm (labelled columns') := by
  induction h with
  | perm h => exact h.filterMap _
  | insert before after cell => simp [labelled]
  | delete before after cell => simp [labelled]
  | trans _ _ ih ih' => exact ih.trans ih'

/-- The labels of a header are those of its labelled columns. -/
theorem reduceOption_map_fst (columns : List LabelledCell) :
    (columns.map Prod.fst).reduceOption = (labelled columns).map Prod.fst := by
  induction columns with
  | nil => rfl
  | cons column columns ih =>
    obtain ⟨label, cell⟩ := column
    cases label with
    | none => simpa [labelled] using ih
    | some label => simpa [labelled] using ih

/-! ## Headers -/

namespace ShapeSchema

/-- The slots that labels name, in the order of the labels. -/
def slotsOf (schema : ShapeSchema) (labels : List String) : List Nat :=
  labels.filterMap schema.slotFor?

/-- Whether labels name what they should: each a field, no two the same field, and every field that does not take null is
named. -/
structure Names (schema : ShapeSchema) (labels : List String) : Prop where
  known : ∀ label ∈ labels, (schema.slotFor? label).isSome = true
  distinct : (schema.slotsOf labels).Nodup
  covered : ∀ slot field, schema.declaration.fields[slot]? = some field →
    field.nullable = true ∨ slot ∈ schema.slotsOf labels

/-- The order of labels is all the same. -/
theorem Names.perm {schema : ShapeSchema} {labels labels' : List String} (h : labels.Perm labels')
    (names : schema.Names labels) : schema.Names labels' := by
  have hslots : (schema.slotsOf labels).Perm (schema.slotsOf labels') := h.filterMap _
  constructor
  · intro label hlabel
    exact names.known label (h.mem_iff.2 hlabel)
  · exact hslots.nodup_iff.1 names.distinct
  · intro slot field hfield
    exact (names.covered slot field hfield).imp id hslots.mem_iff.1

/-- The columns of a header from a position on, as far as their labels name a field. -/
def mapped (schema : ShapeSchema) (position : Nat) : RawLine → List Column
  | [] => []
  | label :: header =>
    ((label.bind schema.slotFor?).map (schema.column position)).toList ++ schema.mapped (position + 1) header

theorem map_slot_mapped (schema : ShapeSchema) (position : Nat) (header : RawLine) :
    (schema.mapped position header).map Column.slot = schema.slotsOf header.reduceOption := by
  induction header generalizing position with
  | nil => rfl
  | cons label header ih =>
    cases label with
    | none => simpa [mapped, slotsOf] using ih (position + 1)
    | some label =>
      have hrest := ih (position + 1)
      cases hslot : schema.slotFor? label with
      | none => simpa [mapped, slotsOf, hslot] using hrest
      | some slot => simpa [mapped, slotsOf, hslot] using hrest

/-- The mapped columns are those whose label names a field, each for the slot of the field. -/
theorem mem_mapped_iff {schema : ShapeSchema} {position : Nat} {header : RawLine} {column : Column} :
    column ∈ schema.mapped position header ↔
      ∃ i label slot, column = schema.column (position + i) slot ∧ header[i]? = some (some label) ∧
        schema.slotFor? label = some slot := by
  induction header generalizing position with
  | nil => simp [mapped]
  | cons first header ih =>
    rw [mapped, List.mem_append, ih, Option.mem_toList, Option.map_eq_some_iff]
    constructor
    · rintro (⟨slot, hslot, rfl⟩ | ⟨i, label, slot, rfl, hlabel, hslot⟩)
      · obtain ⟨label, rfl, hslot⟩ := Option.bind_eq_some_iff.1 hslot
        exact ⟨0, label, slot, rfl, rfl, hslot⟩
      · exact ⟨i + 1, label, slot, by rw [Nat.add_right_comm, Nat.add_assoc], hlabel, hslot⟩
    · rintro ⟨i, label, slot, rfl, hlabel, hslot⟩
      cases i with
      | zero =>
        obtain rfl := Option.some.inj hlabel
        exact .inl ⟨slot, hslot, rfl⟩
      | succ i => exact .inr ⟨i, label, slot, by rw [Nat.add_right_comm, Nat.add_assoc], hlabel, hslot⟩

/-- A column of a header stands within it. -/
theorem column_lt_of_mem_mapped {schema : ShapeSchema} {position : Nat} {header : RawLine} {column : Column}
    (h : column ∈ schema.mapped position header) : column.column < position + header.length := by
  obtain ⟨i, label, slot, rfl, hlabel, -⟩ := mem_mapped_iff.1 h
  obtain ⟨hlt, -⟩ := List.getElem?_eq_some_iff.1 hlabel
  exact Nat.add_lt_add_left hlt position

/-- The mapped columns stand in the order of the header. -/
theorem pairwise_mapped (schema : ShapeSchema) (position : Nat) (header : RawLine) :
    (schema.mapped position header).Pairwise (·.column < ·.column) := by
  induction header generalizing position with
  | nil => exact .nil
  | cons first header ih =>
    rw [mapped, List.pairwise_append]
    refine ⟨?_, ih (position + 1), fun column hfirst other hother => ?_⟩
    · cases first.bind schema.slotFor? with
      | none => exact .nil
      | some slot => exact List.pairwise_singleton _ _
    · rw [Option.mem_toList, Option.map_eq_some_iff] at hfirst
      obtain ⟨slot, -, rfl⟩ := hfirst
      obtain ⟨i, label, other, rfl, -, -⟩ := mem_mapped_iff.1 hother
      exact Nat.lt_of_lt_of_le (Nat.lt_succ_self position) (Nat.le_add_right _ i)

/-- Labelled columns are assigned the slots of the fields that they name, if each names a field and none is named twice, nor
again after the slots before them. -/
theorem assign_ok_iff {schema : ShapeSchema} {position : Nat} {covered : List Nat} {header : RawLine}
    {columns : List Column} :
    schema.assign position covered header = .ok columns ↔
      (∀ label ∈ header.reduceOption, (schema.slotFor? label).isSome = true) ∧
      (schema.slotsOf header.reduceOption).Nodup ∧ (∀ slot ∈ schema.slotsOf header.reduceOption, slot ∉ covered) ∧
      columns = schema.mapped position header := by
  induction header generalizing position covered columns with
  | nil => simp [assign, mapped, slotsOf]
  | cons label header ih =>
    cases label with
    | none => simpa [assign, mapped] using ih
    | some label =>
      rw [assign, List.reduceOption_cons_of_some, mapped]
      cases hslot : schema.slotFor? label with
      | none => simp [hslot]
      | some slot =>
        have hslots : schema.slotsOf (label :: header.reduceOption) = slot :: schema.slotsOf header.reduceOption :=
          List.filterMap_cons_some hslot
        by_cases hcovered : slot ∈ covered
        · simp [hslots, hcovered]
        · simp only [List.contains_iff_mem, hcovered, if_false, bind_eq_ok_iff, ih, hslots, List.forall_mem_cons, hslot,
            Option.isSome_some, true_and, List.nodup_cons, not_false_eq_true, Option.bind_some, Option.map_some,
            Option.toList_some, List.singleton_append]
          constructor
          · rintro ⟨rest, ⟨hknown, hdistinct, hnew, rfl⟩, hcolumns⟩
            refine ⟨hknown, ⟨fun hmem => hnew slot hmem List.mem_cons_self, hdistinct⟩, ?_, (Except.ok.inj hcolumns).symm⟩
            exact fun other hother hmem => hnew other hother (List.mem_cons_of_mem slot hmem)
          · rintro ⟨hknown, ⟨hfirst, hdistinct⟩, hnew, rfl⟩
            refine ⟨_, ⟨hknown, hdistinct, fun other hother hmem => ?_, rfl⟩, rfl⟩
            rcases List.mem_cons.1 hmem with rfl | hmem
            · exact hfirst hother
            · exact hnew other hother hmem

/-- The first label that cannot be assigned a slot: it names no field, or one whose slot is taken. -/
theorem exists_of_assign_error {schema : ShapeSchema} {position : Nat} {covered : List Nat} {header : RawLine}
    {error : SheetError} (h : schema.assign position covered header = .error error) :
    ∃ before label after columns, header = before ++ some label :: after ∧
      schema.assign position covered before = .ok columns ∧
      ((schema.slotFor? label = none ∧ error = .ofFault (.unknownLabel schema.declaration.shape label)) ∨
        ∃ slot, schema.slotFor? label = some slot ∧ (slot ∈ covered ∨ slot ∈ schema.slotsOf before.reduceOption) ∧
          error = .ofFault (.duplicateLabel schema.declaration.shape label)) := by
  induction header generalizing position covered with
  | nil => cases h
  | cons first header ih =>
    cases first with
    | none =>
      obtain ⟨before, label, after, columns, rfl, hbefore, hlabel⟩ := ih h
      exact ⟨none :: before, label, after, columns, rfl, hbefore, hlabel⟩
    | some first =>
      rw [assign] at h
      cases hslot : schema.slotFor? first with
      | none =>
        rw [hslot] at h
        exact ⟨[], first, header, [], rfl, rfl, .inl ⟨hslot, (Except.error.inj h).symm⟩⟩
      | some slot =>
        rw [hslot] at h
        by_cases hcovered : slot ∈ covered
        · simp only [List.contains_iff_mem, hcovered, if_true] at h
          exact ⟨[], first, header, [], rfl, rfl, .inr ⟨slot, hslot, .inl hcovered, (Except.error.inj h).symm⟩⟩
        · simp only [List.contains_iff_mem, hcovered, if_false] at h
          rcases exists_of_bind_error h with hrest | ⟨columns, -, hrest⟩
          · obtain ⟨before, label, after, columns, rfl, hbefore, hlabel⟩ := ih hrest
            refine ⟨some first :: before, label, after, schema.column position slot :: columns, rfl, ?_, hlabel.imp id ?_⟩
            · simp [assign, hslot, hcovered, hbefore, bind, Except.bind, pure, Except.pure]
            · rintro ⟨taken, htaken, hmem, herror⟩
              refine ⟨taken, htaken, ?_, herror⟩
              rw [List.reduceOption_cons_of_some, slotsOf, List.filterMap_cons_some hslot]
              rw [List.mem_cons] at hmem ⊢
              exact hmem.elim (fun hmem => hmem.elim (fun heq => .inr (.inl heq)) .inl) fun hmem => .inr (.inr hmem)
          · cases hrest

/-- A header resolves exactly when its labels name what they should, and then to the columns that they name. -/
theorem resolve_ok_iff {schema : ShapeSchema} {header : RawLine} {resolved : Schema} :
    schema.resolve header = .ok resolved ↔
      schema.Names header.reduceOption ∧ resolved = ⟨schema, schema.mapped 0 header, header.length⟩ := by
  rw [resolve, bind_eq_ok_iff]
  constructor
  · rintro ⟨columns, hassign, hresolved⟩
    obtain ⟨hknown, hdistinct, -, rfl⟩ := assign_ok_iff.1 hassign
    cases huncovered : firstUncovered ((schema.mapped 0 header).map Column.slot) 0 schema.declaration.fields with
    | some field =>
      rw [huncovered] at hresolved
      cases hresolved
    | none =>
      rw [huncovered] at hresolved
      refine ⟨⟨hknown, hdistinct, fun slot field hfield => ?_⟩, (Except.ok.inj hresolved).symm⟩
      have hcovered := firstUncovered_eq_none_iff.1 huncovered slot field hfield
      rwa [Nat.zero_add, map_slot_mapped] at hcovered
  · rintro ⟨names, rfl⟩
    refine ⟨schema.mapped 0 header, assign_ok_iff.2 ⟨names.known, names.distinct, by simp, rfl⟩, ?_⟩
    have huncovered : firstUncovered ((schema.mapped 0 header).map Column.slot) 0 schema.declaration.fields = none := by
      refine firstUncovered_eq_none_iff.2 fun slot field hfield => ?_
      rw [Nat.zero_add, map_slot_mapped]
      exact names.covered slot field hfield
    rw [huncovered]
    rfl

/-- Whether a header resolves lies in its labels. -/
theorem isOk_resolve_iff {schema : ShapeSchema} {header : RawLine} :
    (schema.resolve header).isOk = true ↔ schema.Names header.reduceOption := by
  constructor
  · intro h
    cases hresolve : schema.resolve header with
    | error e =>
      rw [hresolve] at h
      cases h
    | ok resolved => exact (resolve_ok_iff.1 hresolve).1
  · intro h
    rw [resolve_ok_iff.2 ⟨h, rfl⟩]
    rfl

end ShapeSchema

/-! ## Lines -/

/-- The value in a slot of a line that has one cell, of the column of this slot; none if the cell cannot be converted. -/
def cellValue (schema : ShapeSchema) (slot : Nat) (cell : Option String) : Option SlotValue :=
  (convertColumn ⟨schema, [schema.column 0 slot], 1⟩ [cell] (schema.column 0 slot)).toOption

/-- Where the column of a cell stands is all the same to its value. -/
theorem toOption_convertColumn (schema : Schema) (cells : RawLine) (column : Column) :
    (convertColumn schema cells column).toOption =
      cellValue schema.shape column.slot (cells[column.column]?).join :=
  rfl

/-- Values with some put into their slots, unless one of those is missing. -/
def place : List (Nat × Option SlotValue) → List SlotValue → Option (List SlotValue)
  | [], values => some values
  | (slot, value) :: rest, values => value.bind fun value => place rest (values.set slot value)

/-- Into slots of which none is another, values can be put in any order. -/
theorem place_perm {placed placed' : List (Nat × Option SlotValue)} (h : placed.Perm placed')
    (hdistinct : (placed.map Prod.fst).Nodup) (values : List SlotValue) : place placed values = place placed' values := by
  induction h generalizing values with
  | nil => rfl
  | cons entry _ ih =>
    obtain ⟨slot, value⟩ := entry
    rw [List.map_cons, List.nodup_cons] at hdistinct
    simp only [place, ih hdistinct.2]
  | swap first second rest =>
    obtain ⟨slot, value⟩ := first
    obtain ⟨slot', value'⟩ := second
    have hne : slot' ≠ slot := by simp at hdistinct; exact hdistinct.1.1
    cases value <;> cases value' <;> simp [place, List.set_comm _ _ hne]
  | trans h _ ih ih' => rw [ih hdistinct, ih' ((h.map Prod.fst).nodup_iff.1 hdistinct)]

/-- The cells of the labelled columns with the slots that their labels name. -/
def slotCells (schema : ShapeSchema) (columns : List LabelledCell) : List (Nat × Option String) :=
  (labelled columns).filterMap fun (label, cell) => (schema.slotFor? label).map (·, cell)

theorem toOption_fillSlots (schema : Schema) (line : RawLine) (columns : List Column) (values : List SlotValue) :
    (fillSlots schema line columns values).toOption =
      place (columns.map fun column => (column.slot, (convertColumn schema line column).toOption)) values := by
  induction columns generalizing values with
  | nil => rfl
  | cons column columns ih =>
    rw [fillSlots, List.map_cons, place]
    cases convertColumn schema line column with
    | error e => rfl
    | ok value => exact ih (values.set column.slot value)

/-- The mapped columns of a table have the cells that stand under their labels. -/
theorem map_mapped (schema : ShapeSchema) (before : RawLine) (columns : List LabelledCell) :
    (schema.mapped before.length (columns.map Prod.fst)).map
        (fun column => (column.slot, ((before ++ columns.map Prod.snd)[column.column]?).join)) =
      slotCells schema columns := by
  induction columns generalizing before with
  | nil => rfl
  | cons column columns ih =>
    obtain ⟨label, cell⟩ := column
    have hrest := ih (before ++ [cell])
    rw [List.length_append, List.length_singleton, List.append_assoc] at hrest
    cases label with
    | none => simpa [ShapeSchema.mapped, slotCells, labelled] using hrest
    | some label =>
      cases hslot : schema.slotFor? label with
      | none => simpa [ShapeSchema.mapped, slotCells, labelled, hslot] using hrest
      | some slot => simpa [ShapeSchema.mapped, slotCells, labelled, hslot] using hrest

theorem map_fst_slotCells (schema : ShapeSchema) (columns : List LabelledCell) :
    (slotCells schema columns).map Prod.fst = schema.slotsOf (columns.map Prod.fst).reduceOption := by
  rw [reduceOption_map_fst, slotCells, ShapeSchema.slotsOf, List.map_filterMap, List.filterMap_map]
  refine List.filterMap_congr fun entry _ => ?_
  obtain ⟨label, cell⟩ := entry
  cases hslot : schema.slotFor? label <;> simp [hslot]

/-- The values of a line are those of the cells under labels, each in the slot that its label names. -/
theorem toOption_slotValues (schema : ShapeSchema) (columns : List LabelledCell) (count : Nat) :
    (slotValues ⟨schema, schema.mapped 0 (columns.map Prod.fst), count⟩ (columns.map Prod.snd)).toOption =
      place ((slotCells schema columns).map fun (slot, cell) => (slot, cellValue schema slot cell))
        (List.replicate schema.slotCount .null) := by
  have hcells := map_mapped schema [] columns
  rw [List.length_nil, List.nil_append] at hcells
  rw [slotValues, toOption_fillSlots, ← hcells, List.map_map]
  simp only [toOption_convertColumn, Function.comp_def]

/-- The values of a line are the same wherever its columns stand. -/
theorem toOption_slotValues_rearranged {schema : ShapeSchema} {columns columns' : List LabelledCell}
    (h : Rearranged columns columns') (names : schema.Names (columns.map Prod.fst).reduceOption) (count count' : Nat) :
    (slotValues ⟨schema, schema.mapped 0 (columns.map Prod.fst), count⟩ (columns.map Prod.snd)).toOption =
      (slotValues ⟨schema, schema.mapped 0 (columns'.map Prod.fst), count'⟩ (columns'.map Prod.snd)).toOption := by
  have hcells : (slotCells schema columns).Perm (slotCells schema columns') := h.perm_labelled.filterMap _
  rw [toOption_slotValues, toOption_slotValues]
  refine place_perm (hcells.map _) ?_ _
  rw [List.map_map]
  have hdistinct := names.distinct
  rwa [← map_fst_slotCells] at hdistinct

/-- A line fills the slots as another does that has the same values in the columns. -/
theorem fillSlots_congr {schema : Schema} {line line' : RawLine} {columns : List Column}
    (h : ∀ column ∈ columns, convertColumn schema line column = convertColumn schema line' column)
    (values : List SlotValue) : fillSlots schema line columns values = fillSlots schema line' columns values := by
  induction columns generalizing values with
  | nil => rfl
  | cons column columns ih =>
    have hrest := ih fun other hother => h other (List.mem_cons_of_mem column hother)
    simp only [fillSlots, h column List.mem_cons_self, hrest]

/-- Cells past the width of the header are not looked at, and cells that are lacking are empty. -/
theorem slotValues_fitted (schema : ShapeSchema) (header line : RawLine) (count : Nat) :
    slotValues ⟨schema, schema.mapped 0 header, count⟩ (line.fitted header.length) =
      slotValues ⟨schema, schema.mapped 0 header, count⟩ line := by
  rw [slotValues, slotValues]
  refine fillSlots_congr (fun column hcolumn => ?_) _
  have hlt := ShapeSchema.column_lt_of_mem_mapped hcolumn
  rw [Nat.zero_add] at hlt
  simp only [convertColumn, RawLine.fitted, List.getElem?_map, List.getElem?_range hlt]
  rfl

/-! ## Records -/

theorem toOption_materialize (shape : Shape α) (schema : Schema) (line : RawLine) (number : Nat) :
    (materialize shape schema line number).toOption =
      (slotValues schema line).toOption.bind fun values => (shape.build values).toOption := by
  rw [materialize]
  cases slotValues schema line with
  | error e => rfl
  | ok values =>
    dsimp only [Except.bind, Except.toOption, Option.bind]
    cases shape.build values <;> rfl

/-- The columns of a table can be moved about. A header resolves in every order of its columns or in none, with or without
columns that have no label; and if it does, the record of a line is the same in every order, or there is none in any. A line
that is shorter or longer than the header counts as brought to its width. -/
theorem materialize_rearranged (shape : Shape α) (schema : ShapeSchema) (header line : RawLine)
    {columns : List LabelledCell} (h : Rearranged (header.zip (line.fitted header.length)) columns) :
    (schema.resolve header).isOk = (schema.resolve (columns.map Prod.fst)).isOk ∧
      ∀ resolved resolved', schema.resolve header = .ok resolved →
        schema.resolve (columns.map Prod.fst) = .ok resolved' → ∀ number number',
          materialize shape resolved line number = materialize shape resolved (line.fitted header.length) number ∧
          (materialize shape resolved line number).toOption =
            (materialize shape resolved' (columns.map Prod.snd) number').toOption := by
  have hheader : (header.zip (line.fitted header.length)).map Prod.fst = header :=
    List.map_fst_zip (by simp [RawLine.fitted])
  have hline : (header.zip (line.fitted header.length)).map Prod.snd = line.fitted header.length :=
    List.map_snd_zip (by simp [RawLine.fitted])
  have hlabels : header.reduceOption.Perm (columns.map Prod.fst).reduceOption := by
    have hperm := h.perm_labelled.map Prod.fst
    rwa [← reduceOption_map_fst, ← reduceOption_map_fst, hheader] at hperm
  constructor
  · rw [Bool.eq_iff_iff, ShapeSchema.isOk_resolve_iff, ShapeSchema.isOk_resolve_iff]
    exact ⟨.perm hlabels, .perm hlabels.symm⟩
  · intro resolved resolved' hresolved hresolved' number number'
    obtain ⟨names, rfl⟩ := ShapeSchema.resolve_ok_iff.1 hresolved
    obtain ⟨-, rfl⟩ := ShapeSchema.resolve_ok_iff.1 hresolved'
    have hfitted := slotValues_fitted schema header line header.length
    refine ⟨by rw [materialize, materialize, hfitted], ?_⟩
    rw [toOption_materialize, toOption_materialize, ← hfitted]
    have hvalues := toOption_slotValues_rearranged h (hheader.symm ▸ names) header.length (columns.map Prod.fst).length
    rw [hheader, hline] at hvalues
    rw [hvalues]

/-- The shape of images, prepared. -/
def imageSchema : ShapeSchema :=
  ⟨ImageSetMapping.shape.declaration, [⟨.int .u32, false⟩, ⟨.int .u32, false⟩, ⟨.enum ImageType.members, false⟩],
    ["imagesetid", "imageid", "imagetype"]⟩

/-- A table of images, and the same table with the set moved to the end and a column without a label put in front. -/
theorem materialize_rearranged_images :
    ∃ resolved resolved', ShapeSchema.prepare ImageSetMapping.shape.declaration = .ok imageSchema ∧
      imageSchema.resolve [some "IMAGE_SET_ID", some "*Image_Id*", some "image_type"] = .ok resolved ∧
      imageSchema.resolve [none, some "*Image_Id*", some "image_type", some "IMAGE_SET_ID"] = .ok resolved' ∧
      materialize ImageSetMapping.shape resolved [some "5", some "7", some "Large"] 2 = .ok ⟨5, 7, .large⟩ ∧
      (materialize ImageSetMapping.shape resolved [some "5", some "7", some "Large"] 2).toOption =
        (materialize ImageSetMapping.shape resolved' [some "x", some "7", some "Large", some "5"] 3).toOption := by
  have hmoved : Rearranged
      (List.zip [some "IMAGE_SET_ID", some "*Image_Id*", some "image_type"]
        (RawLine.fitted [some "5", some "7", some "Large"] 3))
      [(none, some "x"), (some "*Image_Id*", some "7"), (some "image_type", some "Large"),
        (some "IMAGE_SET_ID", some "5")] :=
    .trans (.perm (by decide)) (.insert [] _ (some "x"))
  have hresolved : imageSchema.resolve [some "IMAGE_SET_ID", some "*Image_Id*", some "image_type"] =
      .ok ⟨imageSchema, [imageSchema.column 0 0, imageSchema.column 1 1, imageSchema.column 2 2], 3⟩ := by decide +kernel
  have hresolved' : imageSchema.resolve [none, some "*Image_Id*", some "image_type", some "IMAGE_SET_ID"] =
      .ok ⟨imageSchema, [imageSchema.column 1 1, imageSchema.column 2 2, imageSchema.column 3 0], 4⟩ := by decide +kernel
  obtain ⟨-, hrecords⟩ := materialize_rearranged ImageSetMapping.shape imageSchema _ _ hmoved
  exact ⟨_, _, by decide +kernel, hresolved, hresolved', by decide +kernel, (hrecords _ _ hresolved hresolved' 2 3).2⟩

end SheetQuery.Sheet
