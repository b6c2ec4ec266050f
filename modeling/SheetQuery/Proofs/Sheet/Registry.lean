import Mathlib.Data.List.Dedup
import SheetQuery.Proofs.Sheet.Schema
import SheetQuery.Sheet.Client

/-!
# Registries without a history

What a registry answers does not depend on what it has been asked before. It knows a shape by its type, not by what it
declares. Each shape that was asked for and can be prepared is there once, as preparing gives it, and stays there. Nothing is
left by a shape that cannot be prepared, and nothing by a header beyond what its shape leaves, whether it is refused or not
(`perform_transparent`).
-/

namespace SheetQuery.Sheet

/-- Whether a shape can be prepared. -/
def ShapeType.canBePrepared (type : ShapeType) : Bool :=
  (ShapeSchema.prepare type.declaration).isOk

theorem ShapeType.canBePrepared_of_ok {type : ShapeType} {schema : ShapeSchema}
    (h : ShapeSchema.prepare type.declaration = .ok schema) : type.canBePrepared = true := by
  rw [canBePrepared, h]
  rfl

theorem ShapeType.canBePrepared_of_error {type : ShapeType} {error : SheetError}
    (h : ShapeSchema.prepare type.declaration = .error error) : type.canBePrepared = false := by
  rw [canBePrepared, h]
  rfl

namespace Registry

/-! ## Calls -/

/-- What a registry is asked for. -/
inductive Call where
  | shape (type : ShapeType)
  | resolve (type : ShapeType) (header : RawLine)

/-- The type that a call is about. -/
def Call.type : Call → ShapeType
  | .shape type => type
  | .resolve type _ => type

/-- What a registry answers. -/
inductive Answer where
  | shape (answer : Except SheetError ShapeSchema)
  | schema (answer : Except SheetError Schema)

/-- Answers a call. -/
def perform (registry : Registry) : Call → Answer × Registry
  | .shape type => (.shape (registry.shape type).1, (registry.shape type).2)
  | .resolve type header =>
    (.schema (registry.resolve type header).1, (registry.resolve type header).2)

/-- The registry when it has answered calls. -/
def after (registry : Registry) (calls : List Call) : Registry :=
  calls.foldl (fun registry call => (registry.perform call).2) registry

variable {registry : Registry} {type : ShapeType}

/-- A call leaves what asking for its shape leaves, whatever comes of a header. -/
theorem perform_snd (registry : Registry) (call : Call) : (registry.perform call).2 = (registry.shape call.type).2 := by
  cases call <;> rfl

theorem after_append (registry : Registry) (earlier later : List Call) :
    registry.after (earlier ++ later) = (registry.after earlier).after later :=
  List.foldl_append

/-! ## Entries -/

/-- A shape is not there when no entry is its own. -/
theorem find?_eq_none_iff : registry.find? type = none ↔ type ∉ registry.shapes.map Prod.fst := by
  rw [find?, Option.map_eq_none_iff, List.find?_eq_none, List.mem_map]
  constructor
  · rintro h ⟨entry, hentry, heq⟩
    exact h entry hentry (beq_iff_eq.2 heq)
  · exact fun h entry hentry heq => h ⟨entry, hentry, beq_iff_eq.1 heq⟩

theorem mem_of_find? {schema : ShapeSchema} (h : registry.find? type = some schema) :
    type ∈ registry.shapes.map Prod.fst := by
  by_contra hnot
  rw [find?_eq_none_iff.2 hnot] at h
  nomatch h

/-- A shape that is there is left alone. -/
theorem shape_of_find? {schema : ShapeSchema} (h : registry.find? type = some schema) :
    registry.shape type = (.ok schema, registry) := by
  rw [shape, h]

/-- A shape that is not there and cannot be prepared is not kept. -/
theorem shape_of_error {error : SheetError} (hnew : registry.find? type = none)
    (h : ShapeSchema.prepare type.declaration = .error error) : registry.shape type = (.error error, registry) := by
  rw [shape, hnew, h]

/-- A shape that is not there is put behind those that are. -/
theorem shape_of_ok {schema : ShapeSchema} (hnew : registry.find? type = none)
    (h : ShapeSchema.prepare type.declaration = .ok schema) :
    registry.shape type = (.ok schema, ⟨registry.shapes ++ [(type, schema)]⟩) := by
  rw [shape, hnew, h]

/-- Asking for a shape adds entries, if any, behind those that are there. -/
theorem prefix_shape (registry : Registry) (type : ShapeType) :
    registry.shapes <+: (registry.shape type).2.shapes := by
  cases hfind : registry.find? type with
  | some schema =>
    have hsame : (registry.shape type).2 = registry := congrArg Prod.snd (shape_of_find? hfind)
    exact hsame.symm ▸ List.prefix_rfl
  | none =>
    cases hprepare : ShapeSchema.prepare type.declaration with
    | error error =>
      have hsame : (registry.shape type).2 = registry := congrArg Prod.snd (shape_of_error hfind hprepare)
      exact hsame.symm ▸ List.prefix_rfl
    | ok schema =>
      rw [shape_of_ok hfind hprepare]
      exact List.prefix_append _ _

theorem prefix_after (registry : Registry) (calls : List Call) : registry.shapes <+: (registry.after calls).shapes := by
  induction calls generalizing registry with
  | nil => exact List.prefix_rfl
  | cons call calls ih =>
    have hcall := prefix_shape registry call.type
    rw [← perform_snd] at hcall
    exact hcall.trans (ih _)

/-- An entry that comes first among more is found among them. -/
theorem find?_of_prefix {registry' : Registry} (h : registry.shapes <+: registry'.shapes) {schema : ShapeSchema}
    (hfind : registry.find? type = some schema) : registry'.find? type = some schema := by
  obtain ⟨added, hadded⟩ := h
  rw [find?, Option.map_eq_some_iff] at hfind ⊢
  obtain ⟨entry, hentry, hschema⟩ := hfind
  exact ⟨entry, by rw [← hadded, List.find?_append, hentry]; rfl, hschema⟩

/-! ## Histories -/

/-- A registry has the shapes among those asked for that can be prepared, each once and as preparing gives it. -/
structure Reflects (registry : Registry) (asked : List ShapeType) : Prop where
  valid : registry.Valid
  distinct : (registry.shapes.map Prod.fst).Nodup
  mem_iff : ∀ type, type ∈ registry.shapes.map Prod.fst ↔
    type ∈ asked ∧ type.canBePrepared = true

theorem reflects_empty : empty.Reflects [] :=
  ⟨valid_empty, List.nodup_nil, fun _ => iff_of_false List.not_mem_nil fun h => List.not_mem_nil h.1⟩

/-- A shape is asked for that is there already or cannot be prepared. -/
theorem Reflects.unchanged {asked : List ShapeType} (h : registry.Reflects asked)
    (hthere : type.canBePrepared = true → type ∈ registry.shapes.map Prod.fst) :
    registry.Reflects (asked ++ [type]) := by
  refine ⟨h.valid, h.distinct, fun other => ?_⟩
  rw [h.mem_iff, List.mem_append, List.mem_singleton]
  constructor
  · rintro ⟨hasked, hprepared⟩
    exact ⟨.inl hasked, hprepared⟩
  · rintro ⟨hasked | rfl, hprepared⟩
    · exact ⟨hasked, hprepared⟩
    · exact (h.mem_iff _).1 (hthere hprepared)

/-- A shape is asked for that is not there and can be prepared. -/
theorem Reflects.added {asked : List ShapeType} (h : registry.Reflects asked)
    (hnew : type ∉ registry.shapes.map Prod.fst) {schema : ShapeSchema}
    (hprepare : ShapeSchema.prepare type.declaration = .ok schema) :
    Reflects ⟨registry.shapes ++ [(type, schema)]⟩ (asked ++ [type]) := by
  have hkeys : (registry.shapes ++ [(type, schema)]).map Prod.fst =
      registry.shapes.map Prod.fst ++ [type] := List.map_append
  constructor
  case valid => exact h.valid.added hprepare
  case distinct =>
    rw [hkeys]
    exact List.concat_eq_append ▸ h.distinct.concat hnew
  case mem_iff =>
    intro other
    rw [hkeys, List.mem_append, List.mem_append, h.mem_iff, List.mem_singleton, or_and_right]
    refine or_congr_right (iff_self_and.2 ?_)
    rintro rfl
    exact ShapeType.canBePrepared_of_ok hprepare

/-- One more shape is asked for. -/
theorem Reflects.shape {asked : List ShapeType} (h : registry.Reflects asked) (type : ShapeType) :
    (registry.shape type).2.Reflects (asked ++ [type]) := by
  cases hfind : registry.find? type with
  | some schema =>
    rw [shape_of_find? hfind]
    exact h.unchanged fun _ => mem_of_find? hfind
  | none =>
    cases hprepare : ShapeSchema.prepare type.declaration with
    | error error =>
      rw [shape_of_error hfind hprepare]
      refine h.unchanged fun hcan => ?_
      rw [ShapeType.canBePrepared_of_error hprepare] at hcan
      cases hcan
    | ok schema =>
      rw [shape_of_ok hfind hprepare]
      exact h.added (find?_eq_none_iff.1 hfind) hprepare

/-- After calls a registry has the shapes that these are about, as far as they can be prepared. -/
theorem Reflects.after {asked : List ShapeType} (h : registry.Reflects asked) (calls : List Call) :
    (registry.after calls).Reflects (asked ++ calls.map Call.type) := by
  induction calls generalizing registry asked with
  | nil => rwa [List.map_nil, List.append_nil]
  | cons call calls ih =>
    have hcall := h.shape call.type
    rw [← perform_snd] at hcall
    have hcalls := ih hcall
    rwa [List.append_assoc] at hcalls

theorem reflects_after (calls : List Call) : (empty.after calls).Reflects (calls.map Call.type) :=
  reflects_empty.after calls

/-- The entry of a shape that was asked for is what preparing gives, if it gives anything. -/
theorem Reflects.find?_eq {asked : List ShapeType} (h : registry.Reflects asked) (type : ShapeType) :
    registry.find? type = if type ∈ asked then (ShapeSchema.prepare type.declaration).toOption else none := by
  cases hfind : registry.find? type with
  | some schema =>
    have hthere := mem_of_find? hfind
    rw [if_pos ((h.mem_iff _).1 hthere).1, prepare_of_find? h.valid hfind]
    rfl
  | none =>
    split
    · rename_i hasked
      have hcannot := mt (fun hcan => (h.mem_iff type).2 ⟨hasked, hcan⟩) (find?_eq_none_iff.1 hfind)
      cases hprepare : ShapeSchema.prepare type.declaration with
      | error error => rfl
      | ok schema => exact absurd (ShapeType.canBePrepared_of_ok hprepare) hcannot
    · rfl

/-- A registry has as many entries as there are shapes, among those asked for, that can be prepared. -/
theorem Reflects.size_eq {asked : List ShapeType} (h : registry.Reflects asked) :
    registry.size = (asked.filter ShapeType.canBePrepared).dedup.length := by
  have hkeys : (registry.shapes.map Prod.fst).Perm (asked.filter ShapeType.canBePrepared).dedup := by
    refine (List.perm_ext_iff_of_nodup h.distinct (List.nodup_dedup _)).2 fun type => ?_
    rw [h.mem_iff, List.mem_dedup, List.mem_filter]
  rw [size, ← hkeys.length_eq, List.length_map]

/-- A valid registry answers as an empty one does. -/
theorem perform_fst (h : registry.Valid) (call : Call) : (registry.perform call).1 = (empty.perform call).1 := by
  cases call with
  | shape type => rw [perform, perform, (shape_eq h type).1, (shape_eq valid_empty type).1]
  | resolve type header =>
    rw [perform, perform, (resolve_eq h type header).1, (resolve_eq valid_empty type header).1]

/-- Whatever a registry was asked for, it answers as if it had been asked for nothing. A shape that is known by then or cannot
be prepared changes nothing, and a header, refused or not, changes nothing that its shape does not. The entries are there to
stay: one for each shape that has been asked for and can be prepared. -/
theorem perform_transparent (earlier : List Call) (call : Call) :
    ((empty.after earlier).perform call).1 = (empty.perform call).1 ∧
      (call.type.canBePrepared = false → ((empty.after earlier).perform call).2 = empty.after earlier) ∧
      (∀ schema, (empty.after earlier).find? call.type = some schema →
        ((empty.after earlier).perform call).2 = empty.after earlier) ∧
      ((empty.after earlier).perform call).2 = ((empty.after earlier).shape call.type).2 ∧
      (∀ later, (empty.after earlier).shapes <+: (empty.after (earlier ++ later)).shapes) ∧
      (∀ later type schema, (empty.after earlier).find? type = some schema →
        (empty.after (earlier ++ later)).find? type = some schema) ∧
      (∀ type, (empty.after earlier).find? type =
        if type ∈ earlier.map Call.type then (ShapeSchema.prepare type.declaration).toOption else none) ∧
      (empty.after earlier).size = ((earlier.map Call.type).filter ShapeType.canBePrepared).dedup.length := by
  have reflects := reflects_after earlier
  have hstays : ∀ later, (empty.after earlier).shapes <+: (empty.after (earlier ++ later)).shapes := fun later => by
    rw [after_append]
    exact prefix_after _ later
  refine ⟨perform_fst reflects.valid call, fun hcannot => ?_, fun schema hfind => ?_, perform_snd _ call, hstays,
    fun later type schema => find?_of_prefix (hstays later), reflects.find?_eq, reflects.size_eq⟩
  · have hnew : (empty.after earlier).find? call.type = none := by
      rw [find?_eq_none_iff, reflects.mem_iff, hcannot]
      exact fun h => nomatch h.2
    cases hprepare : ShapeSchema.prepare call.type.declaration with
    | error error => rw [perform_snd, shape_of_error hnew hprepare]
    | ok schema =>
      rw [ShapeType.canBePrepared_of_ok hprepare] at hcannot
      cases hcannot
  · rw [perform_snd, shape_of_find? hfind]

/-- A registry has been asked for a shape without fields, for the images, twice and with a header that is refused, and for
another type that declares what the images do. It has the images and that other type, each once, and a shape that is asked for
again leaves nothing. -/
theorem perform_transparent_images :
    let images := ImageSetMapping.shape.toShapeType
    let pictures : ShapeType := { images with variant := 1 }
    let fieldless : ShapeType := ⟨⟨"Fieldless", []⟩, 0⟩
    let earlier : List Call := [.shape fieldless, .resolve images [some "no field"], .shape images, .shape pictures]
    let registry := empty.after earlier
    images.declaration = pictures.declaration ∧ registry.size = 2 ∧
      fieldless.canBePrepared = false ∧ (registry.perform (.shape fieldless)).2 = registry ∧
      ∃ schema, registry.find? images = some schema ∧ ShapeSchema.prepare images.declaration = .ok schema ∧
        (registry.perform (.resolve images [none])).2 = registry ∧
        (empty.after (earlier ++ [.shape fieldless])).find? images = some schema := by
  intro images pictures fieldless earlier registry
  have hcannot : fieldless.canBePrepared = false := by decide +kernel
  obtain ⟨-, hunprepared, -, -, -, -, -, hsize⟩ := perform_transparent earlier (.shape fieldless)
  obtain ⟨-, -, hknown, -, -, hkept, -⟩ := perform_transparent earlier (.resolve images [none])
  have htwo : ((earlier.map Call.type).filter ShapeType.canBePrepared).dedup.length = 2 := by decide +kernel
  obtain ⟨schema, hprepare⟩ : ∃ schema, ShapeSchema.prepare images.declaration = .ok schema := ⟨_, rfl⟩
  have hasked : images ∈ earlier.map Call.type := by decide +kernel
  have hfind : registry.find? images = some schema := by
    rw [(reflects_after earlier).find?_eq, if_pos hasked, hprepare]
    rfl
  exact ⟨rfl, hsize.trans htwo, hcannot, hunprepared hcannot, schema, hfind, hprepare, hknown schema hfind,
    hkept [.shape fieldless] images schema hfind⟩

end Registry

end SheetQuery.Sheet
