import Mathlib.Data.List.Forall2
import SheetQuery.Proofs.Query.Projection
import SheetQuery.Query.Compile

/-!
# What a pipeline tells of its plan

The conditions, the page and the enrichment of a plan can be read off its pipeline, up to which of the two kinds a pattern
is of. The keys to sort by and the projection are written as members of one object each, so a key that comes again overwrites
what was written of it before. That loses the direction of the first of two keys of one field, although the first one
decides, and it loses that a path was shown when it is hidden as well.
-/

namespace SheetQuery.Query

/-! ## Sorting -/

namespace SortKey

/-- The key of a field that decides: the first one. -/
def deciding (keys : List SortKey) (field : String) : Option SortKey :=
  keys.find? (·.field == field)

/-- The key of a field that is written in a pipeline: the last one. -/
def written (keys : List SortKey) (field : String) : Option SortKey :=
  keys.reverse.find? (·.field == field)

theorem deciding_cons (key : SortKey) (keys : List SortKey) (field : String) :
    deciding (key :: keys) field = if key.field = field then some key else deciding keys field := by
  rw [deciding, List.find?_cons]
  by_cases hf : key.field = field
  · rw [if_pos hf, beq_iff_eq.2 hf]
  · rw [if_neg hf, beq_eq_false_iff_ne.2 hf, deciding]

/-- The direction of a key does not matter to documents that are equal in its field. -/
theorem compare_eq_eq_iff {key : SortKey} {a b : Json} :
    key.compare a b = .eq ↔ Json.compareForSort (a.lookup key.field) (b.lookup key.field) = .eq := by
  rw [compare]
  split
  · exact Ordering.swap_eq_eq
  · exact Iff.rfl

/-- Two documents that are equal in a field are compared by the keys of the other fields. -/
theorem compareAll_filter {field : String} {a b : Json}
    (h : Json.compareForSort (a.lookup field) (b.lookup field) = .eq) (keys : List SortKey) :
    compareAll keys a b = compareAll (keys.filter fun key => !key.field == field) a b := by
  induction keys with
  | nil => rfl
  | cons key keys ih =>
    by_cases hk : key.field = field
    · have heq : key.compare a b = .eq := compare_eq_eq_iff.2 (hk ▸ h)
      rw [compareAll, heq, List.filter_cons_of_neg (by simpa using hk)]
      exact ih
    · rw [compareAll, ih, List.filter_cons_of_pos (by simpa using hk), compareAll]

/-- The deciding keys of other fields do not change when the keys of a field are left out. -/
theorem deciding_filter (keys : List SortKey) (field field' : String) :
    deciding (keys.filter fun key => !key.field == field) field' =
      if field = field' then none else deciding keys field' := by
  rw [deciding, deciding, List.find?_filter]
  by_cases hf : field = field'
  · rw [if_pos hf, List.find?_eq_none]
    intro key _
    simp [hf]
  · rw [if_neg hf]
    refine congrArg (List.find? · keys) (funext fun key => ?_)
    by_cases hk : key.field = field'
    · have hne : key.field ≠ field := fun e => hf (e.symm.trans hk)
      simp [hk, Ne.symm hf]
    · simp [hk]

/-- The fields that are left when the keys of a field are left out. -/
theorem map_field_filter (keys : List SortKey) (field : String) :
    (keys.filter fun key => !key.field == field).map SortKey.field =
      (keys.map SortKey.field).filter fun other => !other == field := by
  rw [List.filter_map]
  rfl

/-- Documents are compared by the deciding keys of the fields, in the order in which the fields come first. -/
theorem compareAll_congr {keys keys' : List SortKey}
    (hfields : (keys.map SortKey.field).eraseDups = (keys'.map SortKey.field).eraseDups)
    (hdeciding : ∀ field, deciding keys field = deciding keys' field) (a b : Json) :
    compareAll keys a b = compareAll keys' a b := by
  induction hlen : keys.length using Nat.strongRecOn generalizing keys keys' with
  | ind n ih =>
    cases keys with
    | nil =>
      have hnil : keys' = [] := List.map_eq_nil_iff.1 (eraseDups_eq_nil_iff.1 hfields.symm)
      rw [hnil]
    | cons key keys =>
      cases keys' with
      | nil => exact absurd (eraseDups_eq_nil_iff.1 hfields) (by simp)
      | cons key' keys' =>
        rw [List.map_cons, List.map_cons, List.eraseDups_cons, List.eraseDups_cons, List.cons.injEq] at hfields
        have hkey : key = key' := by
          have hfirst := hdeciding key.field
          rw [deciding_cons, deciding_cons, if_pos rfl, if_pos hfields.1.symm] at hfirst
          exact Option.some.inj hfirst
        subst hkey
        rw [compareAll, compareAll]
        cases hcompare : key.compare a b with
        | lt => rfl
        | gt => rfl
        | eq =>
          have hequal := compare_eq_eq_iff.1 hcompare
          rw [compareAll_filter hequal keys, compareAll_filter hequal keys']
          have hshort : (keys.filter fun other => !other.field == key.field).length < n := by
            rw [← hlen]
            exact Nat.lt_succ_of_le (List.length_filter_le _ _)
          refine congrArg (Ordering.then .eq) (ih _ hshort ?_ (fun field => ?_) rfl)
          · rw [map_field_filter, map_field_filter]
            exact hfields.2
          · rw [deciding_filter, deciding_filter]
            by_cases hf : key.field = field
            · rw [if_pos hf, if_pos hf]
            · have hrest := hdeciding field
              rw [deciding_cons, deciding_cons, if_neg hf, if_neg hf] at hrest
              rw [if_neg hf, if_neg hf]
              exact hrest

/-- The direction of a key as it is written. -/
def directionJson (key : SortKey) : Json :=
  (Json.ofInt? key.direction).getD .null

/-- Keys of one field that are written alike are one key. -/
theorem eq_of_directionJson {key key' : SortKey} (hf : key.field = key'.field)
    (hd : key.directionJson = key'.directionJson) : key = key' := by
  obtain ⟨field, descending⟩ := key
  obtain ⟨field', descending'⟩ := key'
  obtain rfl : field = field' := hf
  have hup : directionJson ⟨field, false⟩ = .num (.int 1 (by decide)) := rfl
  have hdown : directionJson ⟨field, true⟩ = .num (.int (-1) (by decide)) := rfl
  cases descending with
  | false =>
    cases descending' with
    | false => rfl
    | true =>
      rw [hup, hdown] at hd
      exact absurd (Number.int.inj (Json.num.inj hd)) (by decide)
  | true =>
    cases descending' with
    | false =>
      rw [hup, hdown] at hd
      exact absurd (Number.int.inj (Json.num.inj hd)) (by decide)
    | true => rfl

end SortKey

/-- The written keys of a plan, and the order of their fields, can be read off its document. -/
theorem Plan.sortDocument_inj {plan plan' : Plan} (h : plan.sortDocument = plan'.sortDocument) :
    (plan.sort.map SortKey.field).eraseDups = (plan'.sort.map SortKey.field).eraseDups ∧
      ∀ field, SortKey.written plan.sort field = SortKey.written plan'.sort field := by
  have hmembers := Json.obj.inj h
  have hkeys := congrArg Members.keys hmembers
  rw [Members.keys_ofList, Members.keys_ofList, List.map_map, List.map_map] at hkeys
  refine ⟨hkeys, fun field => ?_⟩
  have hget : ∀ keys : List SortKey,
      Members.get? field (Members.ofList (keys.map fun key => (key.field, key.directionJson))) =
        (SortKey.written keys field).map SortKey.directionJson := by
    intro keys
    rw [Members.get?_ofList, ← List.map_reverse, List.find?_map, Option.map_map]
    rfl
  have hdirection : (SortKey.written plan.sort field).map SortKey.directionJson =
      (SortKey.written plan'.sort field).map SortKey.directionJson :=
    (hget plan.sort).symm.trans ((congrArg (Members.get? field) hmembers).trans (hget plan'.sort))
  have hfield : ∀ {keys : List SortKey} {key : SortKey}, SortKey.written keys field = some key → key.field = field := by
    intro keys key hkey
    simpa using List.find?_some hkey
  cases hkey : SortKey.written plan.sort field with
  | none =>
    rw [hkey] at hdirection
    exact (Option.map_eq_none_iff.1 hdirection.symm).symm
  | some key =>
    rw [hkey] at hdirection
    obtain ⟨key', hkey', heq⟩ := Option.map_eq_some_iff.1 hdirection.symm
    rw [hkey', SortKey.eq_of_directionJson ((hfield hkey).trans (hfield hkey').symm) heq.symm]

/-! ## Projections -/

/-- Two lists of elements with a property before elements without it agree in both halves. -/
theorem append_inj_of_forall {α : Type} {p : α → Prop} {xs xs' ys ys' : List α} (hx : ∀ x ∈ xs, p x)
    (hx' : ∀ x ∈ xs', p x) (hy : ∀ y ∈ ys, ¬p y) (hy' : ∀ y ∈ ys', ¬p y) (h : xs ++ ys = xs' ++ ys') :
    xs = xs' ∧ ys = ys' := by
  induction xs generalizing xs' with
  | nil =>
    cases xs' with
    | nil => exact ⟨rfl, h⟩
    | cons x' xs' =>
      rw [List.nil_append] at h
      exact absurd (hx' x' List.mem_cons_self) (hy x' (by rw [h]; exact List.mem_cons_self))
  | cons x xs ih =>
    cases xs' with
    | nil =>
      rw [List.nil_append] at h
      exact absurd (hx x List.mem_cons_self) (hy' x (by rw [← h]; exact List.mem_cons_self))
    | cons x' xs' =>
      obtain ⟨rfl, hrest⟩ := List.cons.inj h
      obtain ⟨rfl, hys⟩ := ih (fun y hm => hx y (List.mem_cons_of_mem _ hm))
        (fun y hm => hx' y (List.mem_cons_of_mem _ hm)) hrest
      exact ⟨rfl, hys⟩

namespace Projection

/-- Whether no path is both shown and hidden, and the member of the store is neither. -/
def Plain (projection : Projection) : Prop :=
  (∀ path ∈ projection.included, path ∉ projection.excluded) ∧ storeIdField ∉ projection.included ∧
    storeIdField ∉ projection.excluded

/-- The members that are written for a projection. -/
def entries (projection : Projection) : List (String × Json) :=
  (storeIdField, .ofNat 0) :: projection.included.map (fun path => (path, .ofNat 1)) ++
    projection.excluded.map fun path => (path, .ofNat 0)

/-- The keys that are written for a projection: the paths to keep, then those to leave out. -/
theorem Plain.keys_entries {projection : Projection} (h : projection.Plain) :
    (projection.entries.map Prod.fst).eraseDups =
      storeIdField :: (projection.included.eraseDups ++ projection.excluded.eraseDups) := by
  have hfst : ∀ (paths : List String) (value : Json), (paths.map fun path => (path, value)).map Prod.fst = paths := by
    intro paths value
    rw [List.map_map]
    exact List.map_id _
  have hkeep : (projection.included ++ projection.excluded).filter (fun path => !path == storeIdField) =
      projection.included ++ projection.excluded := by
    refine List.filter_eq_self.2 fun path hpath => ?_
    rcases List.mem_append.1 hpath with hpath | hpath
    · simpa using fun e : path = storeIdField => h.2.1 (e ▸ hpath)
    · simpa using fun e : path = storeIdField => h.2.2 (e ▸ hpath)
  have hrest : projection.excluded.removeAll projection.included = projection.excluded := by
    refine List.filter_eq_self.2 fun path hpath => ?_
    simpa using fun hi : path ∈ projection.included => h.1 path hi hpath
  rw [entries, List.map_append, List.map_cons, hfst, hfst, List.cons_append, List.eraseDups_cons, hkeep,
    List.eraseDups_append, hrest]

/-- The entries of one path say the same of it. -/
theorem mem_entries_iff {projection : Projection} {path : String} {value : Json} :
    (path, value) ∈ projection.entries ↔ path = storeIdField ∧ value = .ofNat 0 ∨
      path ∈ projection.included ∧ value = .ofNat 1 ∨ path ∈ projection.excluded ∧ value = .ofNat 0 := by
  have hmap : ∀ (paths : List String) (v : Json), (path, value) ∈ paths.map (fun path => (path, v)) ↔
      path ∈ paths ∧ value = v := by
    intro paths v
    simp [eq_comm]
  rw [entries, List.mem_append, List.mem_cons, hmap, hmap, Prod.mk.injEq, or_assoc]

/-- What is written of a shown path is that it is kept. -/
theorem Plain.get?_included {projection : Projection} (h : projection.Plain) {path : String}
    (hp : path ∈ projection.included) : Members.get? path (Members.ofList projection.entries) = some (.ofNat 1) := by
  refine Members.get?_ofList_of_forall (mem_entries_iff.2 (.inr (.inl ⟨hp, rfl⟩))) fun other hother => ?_
  rcases mem_entries_iff.1 hother with ⟨rfl, -⟩ | ⟨-, hone⟩ | ⟨he, -⟩
  · exact absurd hp h.2.1
  · exact hone
  · exact absurd he (h.1 path hp)

/-- What is written of a hidden path is that it is left out. -/
theorem Plain.get?_excluded {projection : Projection} (h : projection.Plain) {path : String}
    (hp : path ∈ projection.excluded) : Members.get? path (Members.ofList projection.entries) = some (.ofNat 0) := by
  refine Members.get?_ofList_of_forall (mem_entries_iff.2 (.inr (.inr ⟨hp, rfl⟩))) fun other hother => ?_
  rcases mem_entries_iff.1 hother with ⟨-, hzero⟩ | ⟨hi, -⟩ | ⟨-, hzero⟩
  · exact hzero
  · exact absurd hp (h.1 path hi)
  · exact hzero

theorem ofNat_one_ne_zero : Json.ofNat 1 ≠ .ofNat 0 := by
  have hone : Json.ofNat 1 = .num (.int 1 (by decide)) := rfl
  have hzero : Json.ofNat 0 = .num (.int 0 (by decide)) := rfl
  rw [hone, hzero]
  exact fun h => absurd (Number.int.inj (Json.num.inj h)) (by decide)

/-- The lists of projections that are plain can be read off their document, up to repetitions. -/
theorem document_inj {projection projection' : Projection} (h : projection.Plain) (h' : projection'.Plain)
    (hdoc : projection.document = projection'.document) :
    projection.included.eraseDups = projection'.included.eraseDups ∧
      projection.excluded.eraseDups = projection'.excluded.eraseDups := by
  have hmembers : Members.ofList projection.entries = Members.ofList projection'.entries := Json.obj.inj hdoc
  have hkeys := congrArg Members.keys hmembers
  rw [Members.keys_ofList, Members.keys_ofList, h.keys_entries, h'.keys_entries] at hkeys
  let kept : String → Prop := fun path => Members.get? path (Members.ofList projection.entries) = some (.ofNat 1)
  have hzero : ∀ {path : String}, Members.get? path (Members.ofList projection.entries) = some (.ofNat 0) → ¬kept path :=
    fun hpath hkept => ofNat_one_ne_zero (Option.some.inj (hkept.symm.trans hpath))
  refine append_inj_of_forall (p := kept) (fun path hpath => ?_) (fun path hpath => ?_) (fun path hpath => ?_)
    (fun path hpath => ?_) (List.cons.inj hkeys).2
  · exact h.get?_included (List.mem_eraseDups.1 hpath)
  · exact (congrArg (Members.get? path) hmembers).trans (h'.get?_included (List.mem_eraseDups.1 hpath))
  · exact hzero (h.get?_excluded (List.mem_eraseDups.1 hpath))
  · exact hzero ((congrArg (Members.get? path) hmembers).trans (h'.get?_excluded (List.mem_eraseDups.1 hpath)))

end Projection

/-! ## Conditions -/

/-- The condition that is written for a field that must be there. -/
def existenceJson (field : String) : Json :=
  .obj [(field, .obj [("$ne", .null)])]

namespace Clause

/-- The condition that is written for a comparison. -/
def toJson (clause : Clause) : Json :=
  .obj [(clause.field, .obj [(clause.operator.storeName, clause.operand)])]

/-- Whether two comparisons are written alike: they may differ in the kind of a pattern. -/
def Alike (clause clause' : Clause) : Prop :=
  clause.field = clause'.field ∧ clause.operator.storeName = clause'.operator.storeName ∧ clause.operand = clause'.operand

theorem alike_of_toJson {clause clause' : Clause} (h : clause.toJson = clause'.toJson) : clause.Alike clause' := by
  obtain ⟨hentry, -⟩ := List.cons.inj (Json.obj.inj h)
  obtain ⟨hfield, hinner⟩ := Prod.mk.inj hentry
  obtain ⟨hoperator, -⟩ := List.cons.inj (Json.obj.inj hinner)
  exact ⟨hfield, (Prod.mk.inj hoperator).1, (Prod.mk.inj hoperator).2⟩

/-- A comparison with an operand other than null is not written as a field that must be there. -/
theorem toJson_ne_existenceJson {clause : Clause} (h : clause.operand ≠ .null) (field : String) :
    clause.toJson ≠ existenceJson field := by
  intro he
  obtain ⟨hentry, -⟩ := List.cons.inj (Json.obj.inj he)
  obtain ⟨hoperator, -⟩ := List.cons.inj (Json.obj.inj (Prod.mk.inj hentry).2)
  exact h (Prod.mk.inj hoperator).2

end Clause

namespace Plan

/-- The conditions that are written for a plan. -/
def conditionsJson (plan : Plan) : List Json :=
  plan.existence.map existenceJson ++ plan.filters.map Clause.toJson

/-- The list of conditions can be read off its document, the empty list too. -/
theorem conditionsJson_inj {plan plan' : Plan} (h : plan.matchDocument = plan'.matchDocument) :
    plan.conditionsJson = plan'.conditionsJson := by
  have hdoc : ∀ p : Plan, p.matchDocument =
      if p.conditionsJson.isEmpty then .obj [] else .obj [("$and", .arr p.conditionsJson)] := fun _ => rfl
  rw [hdoc, hdoc] at h
  split at h
  · rename_i hempty
    split at h
    · rename_i hempty'
      rw [List.isEmpty_iff.1 hempty, List.isEmpty_iff.1 hempty']
    · nomatch h
  · split at h
    · nomatch h
    · exact Json.arr.inj (Prod.mk.inj (List.cons.inj (Json.obj.inj h)).1).2

/-- The conditions of a plan can be read off its document, if no operand is null. -/
theorem matchDocument_inj {plan plan' : Plan} (hn : ∀ clause ∈ plan.filters, clause.operand ≠ .null)
    (hn' : ∀ clause ∈ plan'.filters, clause.operand ≠ .null) (h : plan.matchDocument = plan'.matchDocument) :
    plan.existence = plan'.existence ∧ List.Forall₂ Clause.Alike plan.filters plan'.filters := by
  have hexistence : ∀ {fields : List String}, ∀ condition ∈ fields.map existenceJson,
      ∃ field, condition = existenceJson field := by
    intro fields condition hc
    obtain ⟨field, -, rfl⟩ := List.mem_map.1 hc
    exact ⟨field, rfl⟩
  have hfilters : ∀ {clauses : List Clause}, (∀ clause ∈ clauses, clause.operand ≠ .null) →
      ∀ condition ∈ clauses.map Clause.toJson, ¬∃ field, condition = existenceJson field := by
    rintro clauses hclauses condition hc ⟨field, he⟩
    obtain ⟨clause, hclause, rfl⟩ := List.mem_map.1 hc
    exact Clause.toJson_ne_existenceJson (hclauses clause hclause) field he
  obtain ⟨he, hf⟩ := append_inj_of_forall hexistence hexistence (hfilters hn) (hfilters hn')
    (conditionsJson_inj h)
  have hinj : Function.Injective existenceJson := by
    intro field field' hfield
    exact (Prod.mk.inj (List.cons.inj (Json.obj.inj hfield)).1).1
  refine ⟨hinj.list_map he, ?_⟩
  rw [← List.forall₂_eq_eq_eq, List.forall₂_map_left_iff, List.forall₂_map_right_iff] at hf
  exact hf.imp fun _ _ => Clause.alike_of_toJson

/-! ## Stages -/

/-- Whether what decides in a plan is what is written of it: the last key of a field has the direction of the first, and no
path is both shown and hidden. -/
structure Unambiguous (plan : Plan) : Prop where
  sort : ∀ field, SortKey.deciding plan.sort field = SortKey.written plan.sort field
  projection : ∀ path ∈ plan.projection.included, path ∉ plan.projection.excluded

/-- The documents of a plan and its page can be read off its pipeline. -/
theorem pipeline_inj {plan plan' : Plan} (h : plan.pipeline = plan'.pipeline) :
    plan.matchDocument = plan'.matchDocument ∧ plan.projection.document = plan'.projection.document ∧
      plan.sortDocument = plan'.sortDocument ∧ plan.skip = plan'.skip ∧ plan.limit = plan'.limit := by
  have hstage : ∀ {name name' : String} {value value' : Json},
      Json.obj [(name, value)] = .obj [(name', value')] → name = name' ∧ value = value' :=
    fun hs => Prod.mk.inj (List.cons.inj (Json.obj.inj hs)).1
  have hword : ∀ {n n' : UInt64}, Json.ofUInt64 n = .ofUInt64 n' → n = n' :=
    fun hn => UInt64.toNat_inj.1 (Int.ofNat_inj.1 (Number.int.inj (Json.num.inj hn)))
  rw [pipeline, pipeline] at h
  obtain ⟨hmatch, h⟩ := List.cons.inj h
  obtain ⟨hproject, h⟩ := List.cons.inj h
  refine ⟨(hstage hmatch).2, (hstage hproject).2, ?_⟩
  cases hs : plan.sort with
  | nil =>
    cases hs' : plan'.sort with
    | nil =>
      rw [hs, hs'] at h
      obtain ⟨hskip, h⟩ := List.cons.inj h
      obtain ⟨hlimit, -⟩ := List.cons.inj h
      refine ⟨?_, hword (hstage hskip).2, hword (hstage hlimit).2⟩
      rw [sortDocument, sortDocument, hs, hs']
    | cons key' keys' =>
      rw [hs, hs'] at h
      obtain ⟨hsort, -⟩ := List.cons.inj h
      exact absurd (hstage hsort).1 (by decide)
  | cons key keys =>
    cases hs' : plan'.sort with
    | nil =>
      rw [hs, hs'] at h
      obtain ⟨hsort, -⟩ := List.cons.inj h
      exact absurd (hstage hsort).1 (by decide)
    | cons key' keys' =>
      rw [hs, hs'] at h
      obtain ⟨hsort, h⟩ := List.cons.inj h
      obtain ⟨hskip, h⟩ := List.cons.inj h
      obtain ⟨hlimit, -⟩ := List.cons.inj h
      exact ⟨(hstage hsort).2, hword (hstage hskip).2, hword (hstage hlimit).2⟩

end Plan

end SheetQuery.Query
