import SheetQuery.Proofs.Sheet.Columns

/-!
# Headers that resolve

What a header resolves to can be told from its labels and the names of the fields, without slots. It resolves when each label
names a field, no two the same one, and every field is named that does not take null. It is refused for the first label that
names no field or one that has been named before, and if there is no such label, for the first field that lacks one
(`resolve_header`).
-/

namespace SheetQuery.Sheet

/-! ## Names -/

/-- Whether a label names a field: the two are the same once they are normalized. -/
def Field.NamedBy (field : Field) (label : String) : Prop :=
  normalizeLabel label = normalizeLabel field.name

namespace Declaration

/-- Whether labels fit the fields: each names one, no two the same, and every field that does not take null has one. -/
structure FittedBy (declaration : Declaration) (labels : List String) : Prop where
  known : ∀ label ∈ labels, ∃ field ∈ declaration.fields, field.NamedBy label
  distinct : (labels.map normalizeLabel).Nodup
  covered : ∀ field ∈ declaration.fields, field.nullable = false → ∃ label ∈ labels, field.NamedBy label

/-- What a header that fits resolves to. -/
structure ResolvedBy (declaration : Declaration) (header : RawLine) (resolved : Schema) : Prop where
  /-- The columns are in the order of the header. -/
  ordered : resolved.columns.Pairwise (·.column < ·.column)
  /-- The columns are those with a label. -/
  labelled : ∀ place, place ∈ resolved.columns.map Column.column ↔ ∃ label, header[place]? = some (some label)
  distinct : (resolved.columns.map Column.slot).Nodup
  /-- The slot of a column is that of the field which its label names, and the column has what this field declares. -/
  named : ∀ column ∈ resolved.columns, ∃ label field, header[column.column]? = some (some label) ∧
    declaration.fields[column.slot]? = some field ∧ field.NamedBy label ∧ column.type = field.type ∧
    column.nullable = field.nullable
  covered : ∀ slot field, declaration.fields[slot]? = some field → field.nullable = false →
    slot ∈ resolved.columns.map Column.slot
  count : resolved.columnCount = header.length

/-- Why a header is refused: for its first label that should not be there, or else for the first field without a label. -/
inductive Refuses (declaration : Declaration) (header : RawLine) : Fault → Prop
  /-- A label names no field, and those before it are as they should be. -/
  | unknown {before after : RawLine} {label : String} (split : header = before ++ some label :: after)
    (known : ∀ other ∈ before.reduceOption, ∃ field ∈ declaration.fields, field.NamedBy other)
    (distinct : (before.reduceOption.map normalizeLabel).Nodup)
    (unknown : ∀ field ∈ declaration.fields, ¬ field.NamedBy label) :
    Refuses declaration header (.unknownLabel declaration.shape label)
  /-- A label names a field that a label before it names, and those before it are as they should be. -/
  | repeated {before after : RawLine} {label : String} (split : header = before ++ some label :: after)
    (known : ∀ other ∈ before.reduceOption, ∃ field ∈ declaration.fields, field.NamedBy other)
    (distinct : (before.reduceOption.map normalizeLabel).Nodup)
    (repeated : ∃ field ∈ declaration.fields, field.NamedBy label ∧ ∃ other ∈ before.reduceOption, field.NamedBy other) :
    Refuses declaration header (.duplicateLabel declaration.shape label)
  /-- All labels are as they should be, but a field is not named, and those before it are or take null. -/
  | uncovered {before after : List Field} {field : Field}
    (known : ∀ label ∈ header.reduceOption, ∃ field ∈ declaration.fields, field.NamedBy label)
    (distinct : (header.reduceOption.map normalizeLabel).Nodup) (split : declaration.fields = before ++ field :: after)
    (covered : ∀ other ∈ before, other.nullable = true ∨ ∃ label ∈ header.reduceOption, other.NamedBy label)
    (required : field.nullable = false) (unnamed : ∀ label ∈ header.reduceOption, ¬ field.NamedBy label) :
    Refuses declaration header (.missingColumn declaration.shape field.name)

end Declaration

/-! ## Slots -/

namespace ShapeSchema

section Prepared

variable {declaration : Declaration} {schema : ShapeSchema} (hp : prepare declaration = .ok schema)
include hp

/-- A label goes to a slot exactly when it names a field. -/
theorem isSome_slotFor?_iff {label : String} :
    (schema.slotFor? label).isSome = true ↔ ∃ field ∈ declaration.fields, field.NamedBy label := by
  rw [Option.isSome_iff_exists]
  constructor
  · rintro ⟨slot, hslot⟩
    obtain ⟨field, hfield, hname⟩ := (slotFor?_eq_some_iff hp).1 hslot
    exact ⟨field, List.mem_of_getElem? hfield, hname⟩
  · rintro ⟨field, hfield, hname⟩
    obtain ⟨slot, hslot⟩ := List.getElem?_of_mem hfield
    exact ⟨slot, (slotFor?_eq_some_iff hp).2 ⟨field, hslot, hname⟩⟩

/-- The slot of a field is taken by labels exactly when one of them names the field. -/
theorem mem_slotsOf_iff {slot : Nat} {field : Field} (hfield : declaration.fields[slot]? = some field)
    {labels : List String} : slot ∈ schema.slotsOf labels ↔ ∃ label ∈ labels, field.NamedBy label := by
  rw [slotsOf, List.mem_filterMap]
  refine exists_congr fun label => and_congr_right fun _ => ?_
  rw [slotFor?_eq_some_iff hp]
  constructor
  · rintro ⟨other, hother, hname⟩
    obtain rfl := Option.some.inj (hfield.symm.trans hother)
    exact hname
  · exact fun hname => ⟨field, hfield, hname⟩

/-- Labels that name fields take each slot once exactly when they are different labels. -/
theorem nodup_slotsOf_iff {labels : List String}
    (known : ∀ label ∈ labels, ∃ field ∈ declaration.fields, field.NamedBy label) :
    (schema.slotsOf labels).Nodup ↔ (labels.map normalizeLabel).Nodup := by
  induction labels with
  | nil => simp [slotsOf]
  | cons label labels ih =>
    obtain ⟨hlabel, hlabels⟩ := List.forall_mem_cons.1 known
    obtain ⟨slot, hslot⟩ := Option.isSome_iff_exists.1 ((isSome_slotFor?_iff hp).2 hlabel)
    obtain ⟨field, hfield, hname⟩ := (slotFor?_eq_some_iff hp).1 hslot
    have htaken : slot ∈ schema.slotsOf labels ↔ normalizeLabel label ∈ labels.map normalizeLabel := by
      rw [mem_slotsOf_iff hp hfield, List.mem_map, hname]
      rfl
    have hslots : schema.slotsOf (label :: labels) = slot :: schema.slotsOf labels := List.filterMap_cons_some hslot
    rw [hslots, List.nodup_cons, List.map_cons, List.nodup_cons, ih hlabels, htaken]

/-- Labels fit the fields exactly when the slots that they go to are as they should be. -/
theorem names_iff {labels : List String} : schema.Names labels ↔ declaration.FittedBy labels := by
  have hdeclaration : schema.declaration = declaration := (prepare_ok hp).2.1
  constructor
  · intro names
    have known : ∀ label ∈ labels, ∃ field ∈ declaration.fields, field.NamedBy label := fun label hlabel =>
      (isSome_slotFor?_iff hp).1 (names.known label hlabel)
    refine ⟨known, (nodup_slotsOf_iff hp known).1 names.distinct, fun field hfield hrequired => ?_⟩
    obtain ⟨slot, hslot⟩ := List.getElem?_of_mem hfield
    have hcovered := names.covered slot field (hdeclaration.symm ▸ hslot)
    rw [hrequired] at hcovered
    exact (mem_slotsOf_iff hp hslot).1 (hcovered.resolve_left Bool.false_ne_true)
  · intro fitted
    refine ⟨fun label hlabel => (isSome_slotFor?_iff hp).2 (fitted.known label hlabel),
      (nodup_slotsOf_iff hp fitted.known).2 fitted.distinct, fun slot field hslot => ?_⟩
    rw [hdeclaration] at hslot
    cases hnullable : field.nullable with
    | true => exact .inl rfl
    | false =>
      exact .inr ((mem_slotsOf_iff hp hslot).2 (fitted.covered field (List.mem_of_getElem? hslot) hnullable))

end Prepared

/-! ## Refusals -/

/-- A header that is refused is refused for the first label or field at fault. -/
theorem refuses_of_resolve {declaration : Declaration} {schema : ShapeSchema} (hp : prepare declaration = .ok schema)
    {header : RawLine} {error : SheetError} (h : schema.resolve header = .error error) :
    ∃ fault, error = .ofFault fault ∧ declaration.Refuses header fault := by
  have hdeclaration : schema.declaration = declaration := (prepare_ok hp).2.1
  have clean : ∀ {line : RawLine} {columns : List Column}, schema.assign 0 [] line = .ok columns →
      (∀ label ∈ line.reduceOption, ∃ field ∈ declaration.fields, field.NamedBy label) ∧
        (line.reduceOption.map normalizeLabel).Nodup := by
    intro line columns hassign
    obtain ⟨hknown, hdistinct, -⟩ := assign_ok_iff.1 hassign
    have known := fun label hlabel => (isSome_slotFor?_iff hp).1 (hknown label hlabel)
    exact ⟨known, (nodup_slotsOf_iff hp known).1 hdistinct⟩
  rw [resolve, hdeclaration] at h
  rcases exists_of_bind_error h with hassign | ⟨columns, hassign, h⟩
  · obtain ⟨before, label, after, columns, split, hbefore, hlabel⟩ := exists_of_assign_error hassign
    obtain ⟨known, distinct⟩ := clean hbefore
    rw [hdeclaration] at hlabel
    rcases hlabel with ⟨hslot, rfl⟩ | ⟨slot, hslot, htaken, rfl⟩
    · refine ⟨_, rfl, .unknown split known distinct fun field hfield hname => ?_⟩
      have hsome := (isSome_slotFor?_iff hp).2 ⟨field, hfield, hname⟩
      rw [hslot] at hsome
      cases hsome
    · obtain ⟨field, hfield, hname⟩ := (slotFor?_eq_some_iff hp).1 hslot
      have hother := (mem_slotsOf_iff hp hfield).1 (htaken.resolve_left List.not_mem_nil)
      exact ⟨_, rfl, .repeated split known distinct ⟨field, List.mem_of_getElem? hfield, hname, hother⟩⟩
  · obtain ⟨known, distinct⟩ := clean hassign
    obtain ⟨-, -, -, rfl⟩ := assign_ok_iff.1 hassign
    cases huncovered : firstUncovered ((schema.mapped 0 header).map Column.slot) 0 declaration.fields with
    | none =>
      rw [huncovered] at h
      cases h
    | some field =>
      rw [huncovered] at h
      obtain rfl := (Except.error.inj h).symm
      obtain ⟨before, after, split, hfield, hbefore⟩ := exists_of_firstUncovered huncovered
      rw [map_slot_mapped, Nat.zero_add, not_or, Bool.not_eq_true] at hfield
      obtain ⟨required, hfield⟩ := hfield
      have hplace : declaration.fields[before.length]? = some field := by simp [split]
      refine ⟨_, rfl, .uncovered known distinct split (fun other hother => ?_) required fun label hlabel hname => ?_⟩
      · obtain ⟨i, hi⟩ := List.getElem?_of_mem hother
        have hslot : declaration.fields[i]? = some other := by
          rw [split, List.getElem?_append_left (List.getElem?_eq_some_iff.1 hi).1, hi]
        have hcovered := firstUncovered_eq_none_iff.1 hbefore i other hi
        rw [map_slot_mapped, Nat.zero_add] at hcovered
        exact hcovered.imp id (mem_slotsOf_iff hp hslot).1
      · exact hfield ((mem_slotsOf_iff hp hplace).2 ⟨label, hlabel, hname⟩)

/-! ## Headers -/

section Prepared

variable {declaration : Declaration} {schema : ShapeSchema} (hp : prepare declaration = .ok schema)
include hp

/-- What a header resolves to is what its labels say. -/
theorem resolvedBy_of_resolve {header : RawLine} {resolved : Schema} (h : schema.resolve header = .ok resolved) :
    declaration.ResolvedBy header resolved := by
  have hdeclaration : schema.declaration = declaration := (prepare_ok hp).2.1
  obtain ⟨names, rfl⟩ := resolve_ok_iff.1 h
  have hslots := map_slot_mapped schema 0 header
  constructor
  case ordered => exact pairwise_mapped schema 0 header
  case labelled =>
    intro place
    rw [List.mem_map]
    constructor
    · rintro ⟨column, hcolumn, rfl⟩
      obtain ⟨i, label, slot, rfl, hlabel, -⟩ := mem_mapped_iff.1 hcolumn
      exact ⟨label, (Nat.zero_add i).symm ▸ hlabel⟩
    · rintro ⟨label, hlabel⟩
      have hmem : label ∈ header.reduceOption := List.reduceOption_mem_iff.2 (List.mem_of_getElem? hlabel)
      obtain ⟨slot, hslot⟩ := Option.isSome_iff_exists.1 (names.known label hmem)
      exact ⟨_, mem_mapped_iff.2 ⟨place, label, slot, rfl, hlabel, hslot⟩, Nat.zero_add place⟩
  case distinct => exact hslots ▸ names.distinct
  case named =>
    intro column hcolumn
    obtain ⟨i, label, slot, rfl, hlabel, hslot⟩ := mem_mapped_iff.1 hcolumn
    obtain ⟨field, hfield, hname⟩ := (slotFor?_eq_some_iff hp).1 hslot
    have hdeclared : schema.declaration.fields[slot]! = field := by
      rw [hdeclaration, List.getElem!_eq_getElem?_getD, hfield]
      rfl
    refine ⟨label, field, (Nat.zero_add i).symm ▸ hlabel, hfield, hname, ?_, ?_⟩ <;> rw [column, hdeclared]
  case covered =>
    intro slot field hfield hrequired
    have hcovered := names.covered slot field (hdeclaration.symm ▸ hfield)
    rw [hrequired] at hcovered
    exact hslots ▸ hcovered.resolve_left Bool.false_ne_true
  case count => rfl

/-- Labels that are the names of all fields, in any order, fit the fields. -/
theorem fittedBy_of_perm {labels : List String}
    (h : (labels.map normalizeLabel).Perm (declaration.fields.map (normalizeLabel ·.name))) :
    declaration.FittedBy labels := by
  obtain ⟨-, -, -, hnames, hnodup⟩ := prepare_ok hp
  constructor
  case known =>
    intro label hlabel
    obtain ⟨field, hfield, hname⟩ := List.mem_map.1 (h.subset (List.mem_map_of_mem hlabel))
    exact ⟨field, hfield, hname.symm⟩
  case distinct => exact h.nodup_iff.2 (hnames ▸ hnodup)
  case covered =>
    intro field hfield _
    exact List.mem_map.1 (h.symm.subset (List.mem_map.2 ⟨field, hfield, rfl⟩))

/-- A header resolves exactly when its labels fit the fields of the shape, and then to the columns that have labels, each with
the slot of the field that its label names. So one whose labels are the names of all fields has every column with a label
mapped. Otherwise it is refused, for the first label or field at fault. -/
theorem resolve_header (header : RawLine) :
    ((∃ resolved, schema.resolve header = .ok resolved) ↔ declaration.FittedBy header.reduceOption) ∧
      (∀ resolved, schema.resolve header = .ok resolved → declaration.ResolvedBy header resolved) ∧
      ((header.reduceOption.map normalizeLabel).Perm (declaration.fields.map (normalizeLabel ·.name)) →
        ∃ resolved, schema.resolve header = .ok resolved ∧
          ∀ place < header.length, header[place]? ≠ some none → place ∈ resolved.columns.map Column.column) ∧
      ∀ error, schema.resolve header = .error error →
        ∃ fault, error = .ofFault fault ∧ declaration.Refuses header fault := by
  have hfits : (∃ resolved, schema.resolve header = .ok resolved) ↔ declaration.FittedBy header.reduceOption := by
    rw [← names_iff hp]
    constructor
    · rintro ⟨resolved, h⟩
      exact (resolve_ok_iff.1 h).1
    · intro names
      exact ⟨_, resolve_ok_iff.2 ⟨names, rfl⟩⟩
  refine ⟨hfits, fun resolved => resolvedBy_of_resolve hp, fun hnames => ?_, fun error => refuses_of_resolve hp⟩
  obtain ⟨resolved, h⟩ := hfits.2 (fittedBy_of_perm hp hnames)
  refine ⟨resolved, h, fun place hplace hlabel => ?_⟩
  rw [(resolvedBy_of_resolve hp h).labelled]
  rw [List.getElem?_eq_getElem hplace] at hlabel ⊢
  cases hcell : header[place] with
  | none => exact absurd (congrArg some hcell) hlabel
  | some label => exact ⟨label, rfl⟩

end Prepared

/-- A header of images with a column that has no label, and one that names the set again before it fails to name the type. -/
theorem resolve_header_images :
    prepare ImageSetMapping.shape.declaration = .ok imageSchema ∧
      (∃ resolved, imageSchema.resolve [some "*Image_Type*", none, some "IMAGE_SET_ID", some "imageid"] = .ok resolved ∧
        ∀ place < 4, place ≠ 1 → place ∈ resolved.columns.map Column.column) ∧
      imageSchema.resolve [some "IMAGE_SET_ID", some "**image_set_id", some "no field"] =
        .error (.ofFault (.duplicateLabel "ImageSetMapping" "**image_set_id")) ∧
      ImageSetMapping.shape.declaration.Refuses [some "IMAGE_SET_ID", some "**image_set_id", some "no field"]
        (.duplicateLabel "ImageSetMapping" "**image_set_id") := by
  have hp : prepare ImageSetMapping.shape.declaration = .ok imageSchema := by decide +kernel
  obtain ⟨-, -, hnames, -⟩ := resolve_header hp [some "*Image_Type*", none, some "IMAGE_SET_ID", some "imageid"]
  obtain ⟨-, -, -, hrefused⟩ := resolve_header hp [some "IMAGE_SET_ID", some "**image_set_id", some "no field"]
  have hrepeated : imageSchema.resolve [some "IMAGE_SET_ID", some "**image_set_id", some "no field"] =
      .error (.ofFault (.duplicateLabel "ImageSetMapping" "**image_set_id")) := by decide +kernel
  obtain ⟨resolved, hresolved, hmapped⟩ := hnames (by decide +kernel)
  obtain ⟨fault, hfault, hrefuses⟩ := hrefused _ hrepeated
  obtain rfl : Fault.duplicateLabel "ImageSetMapping" "**image_set_id" = fault := congrArg SheetError.fault hfault
  refine ⟨hp, ⟨resolved, hresolved, fun place hplace hlabel => hmapped place hplace ?_⟩, hrepeated, hrefuses⟩
  have hlabels : ∀ i < 4, i ≠ 1 →
      [some "*Image_Type*", none, some "IMAGE_SET_ID", some "imageid"][i]? ≠ some none := by decide
  exact hlabels place hplace hlabel

end ShapeSchema

end SheetQuery.Sheet
