import Mathlib.Data.List.Forall2
import Mathlib.Data.List.Nodup
import SheetQuery.Proofs.Outcome
import SheetQuery.Proofs.Sheet.Label
import SheetQuery.Sheet.Schema

/-!
# Schemas of written headers

What preparing a shape gives: the converters of its fields and their normalized names, no name twice. A header that resolves
leaves no field without a column but those that take null. The header that is written for a shape names every field at its own
place, so it resolves to the columns in order. A registry only ever has
what preparing gives, so that it answers as if it were asked for the first time.
-/

namespace SheetQuery.Sheet

/-! ## Preparing -/

namespace ShapeSchema

/-- What preparing fields gives, after the names before them: a converter for each, and the names, none of them twice. -/
theorem prepareFields_ok {shape : String} {taken : List String} {fields : List Field} {converters : List Converter}
    {names : List String} (ht : taken.Nodup) (h : prepareFields shape taken fields = .ok (converters, names)) :
    List.Forall₂ (fun field converter => Converter.ofField shape field = .ok converter) fields converters ∧
      names = taken ++ fields.map (normalizeLabel ·.name) ∧ names.Nodup := by
  induction fields generalizing taken converters names with
  | nil =>
    obtain ⟨rfl, rfl⟩ := Prod.mk.inj (Except.ok.inj h)
    exact ⟨.nil, by simp, ht⟩
  | cons field fields ih =>
    rw [prepareFields] at h
    obtain ⟨converter, hc, h⟩ := exists_of_bind_ok h
    by_cases hn : taken.contains (normalizeLabel field.name) = true
    · simp only [bind, Except.bind, hn, if_true] at h
      nomatch h
    · have hnew : normalizeLabel field.name ∉ taken := by simpa using hn
      simp only [hn, if_false, Bool.false_eq_true] at h
      obtain ⟨rest, hr, h⟩ := exists_of_bind_ok h
      obtain ⟨rfl, rfl⟩ := Prod.mk.inj (Except.ok.inj h)
      have ht' : (taken ++ [normalizeLabel field.name]).Nodup := by
        rw [List.nodup_append]
        refine ⟨ht, List.nodup_singleton _, ?_⟩
        intro a ha b hb
        rw [List.mem_singleton] at hb
        subst hb
        exact fun e => hnew (e ▸ ha)
      obtain ⟨h1, h2, h3⟩ := ih ht' hr
      exact ⟨.cons hc h1, by simpa using h2, h3⟩

/-- What preparing a shape gives. -/
theorem prepare_ok {declaration : Declaration} {schema : ShapeSchema} (h : prepare declaration = .ok schema) :
    declaration.fields ≠ [] ∧ schema.declaration = declaration ∧
      List.Forall₂ (fun field converter => Converter.ofField declaration.shape field = .ok converter)
        declaration.fields schema.converters ∧
      schema.names = declaration.fields.map (normalizeLabel ·.name) ∧ schema.names.Nodup := by
  rw [prepare] at h
  split at h
  · nomatch h
  · rename_i hne
    obtain ⟨result, hp, h⟩ := exists_of_bind_ok h
    obtain rfl := Except.ok.inj h
    obtain ⟨h1, h2, h3⟩ := prepareFields_ok List.nodup_nil hp
    exact ⟨by simpa using hne, rfl, h1, by simpa using h2, h3⟩

/-- A label goes to the slot of the field that it names. -/
theorem slotFor?_eq_some_iff {declaration : Declaration} {schema : ShapeSchema}
    (hp : prepare declaration = .ok schema) {label : String} {slot : Nat} :
    schema.slotFor? label = some slot ↔
      ∃ field, declaration.fields[slot]? = some field ∧ normalizeLabel label = normalizeLabel field.name := by
  obtain ⟨-, -, -, hnames, hnodup⟩ := prepare_ok hp
  have hname : schema.names[slot]? = some (normalizeLabel label) ↔
      ∃ field, declaration.fields[slot]? = some field ∧ normalizeLabel label = normalizeLabel field.name := by
    rw [hnames, List.getElem?_map, Option.map_eq_some_iff]
    simp only [eq_comm]
  rw [← hname, slotFor?]
  constructor
  · intro h
    obtain ⟨hlt, hslot, -⟩ := List.findIdx?_eq_some_iff_getElem.1 h
    rw [List.getElem?_eq_getElem hlt, eq_of_beq hslot]
  · intro h
    obtain ⟨hlt, hslot⟩ := List.getElem?_eq_some_iff.1 h
    refine List.findIdx?_eq_some_iff_getElem.2 ⟨hlt, beq_iff_eq.2 hslot, fun other hother hname => ?_⟩
    -- No name comes twice.
    have hsame : schema.names[other] = schema.names[slot] := (eq_of_beq hname).trans hslot.symm
    exact Nat.ne_of_lt hother (hnodup.getElem_inj_iff.1 hsame)

/-! ## Resolving a written header -/

/-- The labels of the header that is written for fields. -/
def labels (fields : List Field) : List String :=
  fields.map (upperAscii ·.name)

@[simp] theorem column_column (schema : ShapeSchema) (position slot : Nat) :
    (schema.column position slot).column = position := rfl

@[simp] theorem slot_column (schema : ShapeSchema) (position slot : Nat) : (schema.column position slot).slot = slot := rfl

/-- The columns in order, each for the slot of its place, from a place on. -/
def inOrder (schema : ShapeSchema) (start count : Nat) : List Column :=
  (List.range' start count).map fun i => schema.column i i

/-- The label written for a field names the slot of that field. -/
theorem slotFor?_label {declaration : Declaration} {schema : ShapeSchema} (h : prepare declaration = .ok schema)
    {before after : List Field} {field : Field} (hf : declaration.fields = before ++ field :: after) :
    schema.slotFor? (upperAscii field.name) = some before.length :=
  (slotFor?_eq_some_iff h).2 ⟨field, by simp [hf], normalizeLabel_upperAscii field.name⟩

/-- The columns of a written header, from a place on: each is assigned the slot of its place. -/
theorem assign_labels {declaration : Declaration} {schema : ShapeSchema} (h : prepare declaration = .ok schema)
    (before after : List Field) (hf : declaration.fields = before ++ after) (covered : List Nat)
    (hcov : ∀ slot ∈ covered, slot < before.length) :
    schema.assign before.length covered ((labels after).map some) = .ok (schema.inOrder before.length after.length) := by
  induction after generalizing before covered with
  | nil => rfl
  | cons field after ih =>
    have hslot := slotFor?_label h hf
    have hnew : covered.contains before.length = false := by
      rw [← Bool.not_eq_true, List.contains_iff_mem]
      exact fun hm => Nat.lt_irrefl _ (hcov _ hm)
    have hcov' : ∀ slot ∈ before.length :: covered, slot < (before ++ [field]).length := by
      intro slot hs
      rw [List.length_append, List.length_singleton]
      rcases List.mem_cons.1 hs with rfl | hs
      · exact Nat.lt_succ_self _
      · exact Nat.lt_succ_of_lt (hcov slot hs)
    have hrest := ih (before ++ [field]) (by rw [hf, List.append_assoc]; rfl) (before.length :: covered) hcov'
    rw [List.length_append, List.length_singleton, labels] at hrest
    rw [labels, List.map_cons, List.map_cons, assign]
    simp only [hslot, hnew, Bool.false_eq_true, if_false, hrest, bind, Except.bind, pure, Except.pure]
    rfl

/-- A field that has a column or takes null is passed over. -/
theorem firstUncovered_cons_of_covered {covered : List Nat} {fields : List Field} {slot : Nat} {field : Field}
    (h : field.nullable = true ∨ slot ∈ covered) :
    firstUncovered covered slot (field :: fields) = firstUncovered covered (slot + 1) fields := by
  rw [firstUncovered, if_neg]
  rcases h with h | h <;> simp [h]

/-- A field that must have a column and has none is found. -/
theorem firstUncovered_cons_of_uncovered {covered : List Nat} {fields : List Field} {slot : Nat} {field : Field}
    (h : ¬ (field.nullable = true ∨ slot ∈ covered)) : firstUncovered covered slot (field :: fields) = some field := by
  rw [firstUncovered, if_pos]
  simpa using h

/-- There is no first field without a column exactly when every field has one or takes null. -/
theorem firstUncovered_eq_none_iff {covered : List Nat} {fields : List Field} {slot : Nat} :
    firstUncovered covered slot fields = none ↔
      ∀ i field, fields[i]? = some field → field.nullable = true ∨ slot + i ∈ covered := by
  induction fields generalizing slot with
  | nil => simp [firstUncovered]
  | cons first fields ih =>
    by_cases hfirst : first.nullable = true ∨ slot ∈ covered
    · rw [firstUncovered_cons_of_covered hfirst, ih]
      constructor
      · intro h i field hfield
        cases i with
        | zero =>
          obtain rfl := Option.some.inj hfield
          exact hfirst
        | succ i =>
          have hrest := h i field hfield
          rwa [Nat.add_right_comm, Nat.add_assoc] at hrest
      · intro h i field hfield
        have hrest := h (i + 1) field hfield
        rwa [← Nat.add_assoc, Nat.add_right_comm] at hrest
    · rw [firstUncovered_cons_of_uncovered hfirst]
      exact iff_of_false (Option.some_ne_none _) fun h => hfirst (h 0 first rfl)

/-- The first field without a column stands behind fields that have one or take null. -/
theorem exists_of_firstUncovered {covered : List Nat} {fields : List Field} {slot : Nat} {field : Field}
    (h : firstUncovered covered slot fields = some field) :
    ∃ before after, fields = before ++ field :: after ∧ ¬ (field.nullable = true ∨ slot + before.length ∈ covered) ∧
      firstUncovered covered slot before = none := by
  induction fields generalizing slot with
  | nil => cases h
  | cons first fields ih =>
    by_cases hfirst : first.nullable = true ∨ slot ∈ covered
    · rw [firstUncovered_cons_of_covered hfirst] at h
      obtain ⟨before, after, rfl, hfield, hbefore⟩ := ih h
      refine ⟨first :: before, after, rfl, ?_, (firstUncovered_cons_of_covered hfirst).trans hbefore⟩
      rwa [Nat.add_right_comm, Nat.add_assoc] at hfield
    · rw [firstUncovered_cons_of_uncovered hfirst] at h
      obtain rfl := Option.some.inj h
      exact ⟨[], fields, rfl, hfirst, rfl⟩

/-- A header that resolves has a column for every field that does not take null. -/
theorem resolve_ok {schema : ShapeSchema} {header : RawLine} {resolved : Schema}
    (h : schema.resolve header = .ok resolved) :
    resolved.shape = schema ∧ ∀ slot field, schema.declaration.fields[slot]? = some field →
      field.nullable = true ∨ slot ∈ resolved.columns.map Column.slot := by
  rw [resolve] at h
  obtain ⟨columns, -, h⟩ := exists_of_bind_ok h
  cases hu : firstUncovered (columns.map Column.slot) 0 schema.declaration.fields with
  | some field => rw [hu] at h; nomatch h
  | none =>
    rw [hu] at h
    obtain rfl := Except.ok.inj h
    refine ⟨rfl, fun slot field hf => ?_⟩
    have hcovered := firstUncovered_eq_none_iff.1 hu slot field hf
    rwa [Nat.zero_add] at hcovered

/-- The header that is written for a shape resolves to the columns in order. -/
theorem resolve_labels {declaration : Declaration} {schema : ShapeSchema} (h : prepare declaration = .ok schema) :
    schema.resolve ((labels declaration.fields).map some) =
      .ok ⟨schema, schema.inOrder 0 declaration.fields.length, declaration.fields.length⟩ := by
  have hassign := assign_labels h [] declaration.fields rfl [] (by simp)
  have hdecl : schema.declaration = declaration := (prepare_ok h).2.1
  rw [List.length_nil] at hassign
  have hcov : firstUncovered ((schema.inOrder 0 declaration.fields.length).map Column.slot) 0 declaration.fields = none := by
    refine firstUncovered_eq_none_iff.2 fun i field hfield => .inr ?_
    have hi : i < declaration.fields.length := (List.getElem?_eq_some_iff.1 hfield).1
    simp only [inOrder, List.map_map, List.mem_map, List.mem_range'_1, Function.comp_apply]
    exact ⟨i, by omega, (Nat.zero_add i).symm⟩
  simp only [resolve, hassign, bind, Except.bind, hdecl, hcov]
  rw [List.length_map, labels, List.length_map]
  rfl

end ShapeSchema

/-! ## Registries -/

namespace Registry

/-- What a registry has is what preparing gives. -/
def Valid (registry : Registry) : Prop :=
  ∀ entry ∈ registry.shapes, ShapeSchema.prepare entry.1.declaration = .ok entry.2

theorem valid_empty : empty.Valid := by
  intro entry h
  nomatch h

/-- A registry stays valid when a shape is put in as preparing gives it. -/
theorem Valid.added {registry : Registry} (hv : registry.Valid) {type : ShapeType} {schema : ShapeSchema}
    (h : ShapeSchema.prepare type.declaration = .ok schema) : Valid ⟨registry.shapes ++ [(type, schema)]⟩ := by
  intro entry hentry
  rcases List.mem_append.1 hentry with hentry | hentry
  · exact hv entry hentry
  · rw [List.mem_singleton.1 hentry]
    exact h

/-- A shape that a registry has is prepared as it would be anew. -/
theorem prepare_of_find? {registry : Registry} (hv : registry.Valid) {type : ShapeType} {schema : ShapeSchema}
    (h : registry.find? type = some schema) : ShapeSchema.prepare type.declaration = .ok schema := by
  rw [find?, Option.map_eq_some_iff] at h
  obtain ⟨entry, hfind, rfl⟩ := h
  have hkey : entry.1 = type := by simpa using List.find?_some hfind
  rw [← hkey]
  exact hv entry (List.mem_of_find?_eq_some hfind)

/-- A registry answers as if the shape were prepared anew, and stays valid. -/
theorem shape_eq {registry : Registry} (hv : registry.Valid) (type : ShapeType) :
    (registry.shape type).1 = ShapeSchema.prepare type.declaration ∧ (registry.shape type).2.Valid := by
  rw [shape]
  cases hfind : registry.find? type with
  | some schema => exact ⟨(prepare_of_find? hv hfind).symm, hv⟩
  | none =>
    cases hp : ShapeSchema.prepare type.declaration with
    | error e => exact ⟨rfl, hv⟩
    | ok schema => exact ⟨rfl, hv.added hp⟩

/-- A header resolves against a registry as against the shape prepared anew. -/
theorem resolve_eq {registry : Registry} (hv : registry.Valid) (type : ShapeType) (header : RawLine) :
    (registry.resolve type header).1 = (ShapeSchema.prepare type.declaration).bind (·.resolve header) ∧
      (registry.resolve type header).2.Valid := by
  obtain ⟨h1, h2⟩ := shape_eq hv type
  refine ⟨?_, h2⟩
  rw [← h1]
  rfl

end Registry

end SheetQuery.Sheet
