import SheetQuery.Proofs.Query.Compile
import SheetQuery.Proofs.Query.Rendering
import SheetQuery.Proofs.Store.Paging

/-!
# Answers and pipelines

A store answers from the parts of a plan, and whoever is handed the pipeline has only that. Two plans of one collection with
one pipeline get one answer, so long as the pipeline has kept what decides: it must not name a field in two directions, of
which it writes the last and the store goes by the first, nor a path that is both shown and hidden, of which it writes only
that it is hidden.
-/

namespace SheetQuery

open Query Store

namespace Store

/-! ## Conditions -/

/-- Comparisons that are written alike are of one kind but for the two kinds of patterns. -/
theorem operator_of_storeName {operator operator' : Operator} (h : operator.storeName = operator'.storeName) :
    operator = operator' ∨ operator.isRegex = true ∧ operator'.isRegex = true := by
  revert h
  cases operator <;> cases operator' <;> decide

/-- A condition with a pattern holds where the pattern is found, whichever of the two kinds it is of. -/
theorem holdsAt_of_isRegex {condition : Condition} (h : condition.clause.operator.isRegex = true)
    (value : Option Json) :
    condition.holdsAt value =
      match condition.pattern with
      | some isFound => anyElement (containsPattern isFound) value
      | none => false := by
  obtain ⟨⟨field, operator, operand⟩, pattern⟩ := condition
  cases operator with
  | regexAnchored => rfl
  | regexContains => rfl
  | _ => exact absurd h Bool.false_ne_true

/-- Conditions of comparisons that are written alike hold of the same documents. -/
theorem holds_alike {clause clause' : Clause} (h : clause.Alike clause') (pattern : Option (String → Bool))
    (document : Json) :
    Condition.holds ⟨clause, pattern⟩ document = Condition.holds ⟨clause', pattern⟩ document := by
  obtain ⟨hfield, hname, hoperand⟩ := h
  rw [Condition.holds, Condition.holds, hfield]
  rcases operator_of_storeName hname with hoperator | ⟨hregex, hregex'⟩
  · rw [Condition.holdsAt, Condition.holdsAt, hoperator, hoperand]
  · rw [holdsAt_of_isRegex hregex, holdsAt_of_isRegex hregex']

section Runs

variable [PatternEngine]

/-- Comparisons that are written alike fail to be read alike, or are read as the same pattern. -/
theorem ofClause_alike {clause clause' : Clause} (h : clause.Alike clause') :
    (∃ error, Condition.ofClause clause = .error error ∧ Condition.ofClause clause' = .error error) ∨
      ∃ pattern, Condition.ofClause clause = .ok ⟨clause, pattern⟩ ∧
        Condition.ofClause clause' = .ok ⟨clause', pattern⟩ := by
  have hregex : clause.operator.isRegex = clause'.operator.isRegex := by
    rcases operator_of_storeName h.2.1 with hoperator | ⟨hregex, hregex'⟩
    · rw [hoperator]
    · rw [hregex, hregex']
  rw [Condition.ofClause, Condition.ofClause, ← hregex, ← h.2.2]
  split
  · dsimp only
    cases PatternEngine.read (clause.operand.str?.getD "") with
    | error reason => exact .inl ⟨_, rfl, rfl⟩
    | ok isFound => exact .inr ⟨some isFound, rfl, rfl⟩
  · exact .inr ⟨none, rfl, rfl⟩

theorem clauseHolds_alike {clause clause' : Clause} (h : clause.Alike clause') (document : Json) :
    clauseHolds document clause = clauseHolds document clause' := by
  rw [clauseHolds, clauseHolds]
  rcases ofClause_alike h with ⟨error, he, he'⟩ | ⟨pattern, hp, hp'⟩
  · rw [he, he']
  · rw [hp, hp']
    exact holds_alike h pattern document

/-- Lists of comparisons that are written alike fail to be read alike, or are both read. -/
theorem ofClauses_alike {clauses clauses' : List Clause} (h : List.Forall₂ Clause.Alike clauses clauses') :
    (∃ error, Condition.ofClauses clauses = .error error ∧ Condition.ofClauses clauses' = .error error) ∨
      ∃ conditions conditions', Condition.ofClauses clauses = .ok conditions ∧
        Condition.ofClauses clauses' = .ok conditions' := by
  induction h with
  | nil => exact .inr ⟨[], [], rfl, rfl⟩
  | @cons clause clause' clauses clauses' hclause _ ih =>
    rw [Condition.ofClauses, Condition.ofClauses]
    rcases ofClause_alike hclause with ⟨error, he, he'⟩ | ⟨pattern, hp, hp'⟩
    · rw [he, he']
      exact .inl ⟨error, rfl, rfl⟩
    · rw [hp, hp']
      rcases ih with ⟨error, he, he'⟩ | ⟨conditions, conditions', hc, hc'⟩
      · rw [he, he']
        exact .inl ⟨error, rfl, rfl⟩
      · rw [hc, hc']
        exact .inr ⟨_, _, rfl, rfl⟩

theorem all_clauseHolds_alike {clauses clauses' : List Clause} (h : List.Forall₂ Clause.Alike clauses clauses')
    (document : Json) : clauses.all (clauseHolds document) = clauses'.all (clauseHolds document) := by
  induction h with
  | nil => rfl
  | cons hclause _ ih => rw [List.all_cons, List.all_cons, clauseHolds_alike hclause, ih]

/-- Plans whose conditions are written alike are satisfied by the same documents. -/
theorem satisfies_alike {plan plan' : Plan} (he : plan.existence = plan'.existence)
    (hf : List.Forall₂ Clause.Alike plan.filters plan'.filters) (document : Json) :
    satisfies plan document = satisfies plan' document := by
  rw [satisfies, satisfies, he, all_clauseHolds_alike hf]

/-! ## Runs -/

/-- Plans that differ in nothing that decides get one answer. -/
theorem run_congr {store : Store} {plan plan' : Plan} (hcollection : plan.collection = plan'.collection)
    (hexistence : plan.existence = plan'.existence) (hfilters : List.Forall₂ Clause.Alike plan.filters plan'.filters)
    (hshown : ∀ document ∈ store.documents plan.collection,
      plan.projection.apply document = plan'.projection.apply document)
    (hsort : ∀ a b, SortKey.compareAll plan.sort a b = SortKey.compareAll plan'.sort a b)
    (hskip : plan.skip = plan'.skip) (hlimit : plan.limit = plan'.limit)
    (henrichment : plan.enrichment = plan'.enrichment) : store.run plan = store.run plan' := by
  cases hf : store.find? plan.collection with
  | none => rw [run, run, ← hcollection, hf]
  | some documents =>
    have hf' : store.find? plan'.collection = some documents := hcollection ▸ hf
    have hdocuments : store.documents plan.collection = documents := by
      rw [Store.documents, hf]
      rfl
    rw [hdocuments] at hshown
    rcases ofClauses_alike hfilters with ⟨error, he, he'⟩ | ⟨conditions, conditions', hc, hc'⟩
    · rw [run, run, hf, hf']
      simp only [he, he']
    · have haccepts : accepts plan.existence conditions = accepts plan'.existence conditions' := by
        funext document
        rw [accepts_eq_satisfies hc, accepts_eq_satisfies hc', satisfies_alike hexistence hfilters]
      have hselect : select plan conditions documents = select plan' conditions' documents := by
        have hless : (fun a b => (SortKey.compareAll plan.sort a b).isLT) =
            fun a b => (SortKey.compareAll plan'.sort a b).isLT := by
          funext a b
          rw [hsort]
        rw [select, select, SortKey.sort, SortKey.sort, haccepts, hless]
        refine congrArg (stableSort _) (List.map_congr_left fun document hdocument => ?_)
        exact hshown document (List.mem_filter.1 hdocument).1
      rw [run_eq plan hf hc, run_eq plan' hf' hc', hselect, page, page, hskip, hlimit, attach, attach, henrichment]

end Runs

/-- Whether no object of a stored document has a key twice. -/
def Distinct (store : Store) : Prop :=
  ∀ entry ∈ store.collections, ∀ document ∈ entry.2, document.Distinct

theorem Distinct.of_documents {store : Store} (h : store.Distinct) (name : String) :
    ∀ document ∈ store.documents name, document.Distinct := by
  intro document hdocument
  rw [Store.documents] at hdocument
  cases hf : store.find? name with
  | none =>
    rw [hf] at hdocument
    exact absurd hdocument List.not_mem_nil
  | some documents =>
    rw [hf] at hdocument
    exact h _ (Members.mem_of_get? hf) document hdocument

/-- The pipeline of a plan determines its answer, if it has kept what decides: two plans that are compiled for one
collection, each naming no field in two directions and no path as both shown and hidden, get one answer from every store if
their pipelines are one. -/
theorem run_eq_of_pipeline_eq [PatternEngine] {name : String} {params params' : List (String × String)} {plan plan' : Plan}
    (h : compile Catalog.builtin name params = .ok plan) (h' : compile Catalog.builtin name params' = .ok plan')
    (hu : plan.Unambiguous) (hu' : plan'.Unambiguous) (hpipeline : plan.pipeline = plan'.pipeline) {store : Store}
    (hstore : store.Distinct) : store.run plan = store.run plan' := by
  obtain ⟨hmatch, hproject, hsort, hskip, hlimit⟩ := Plan.pipeline_inj hpipeline
  obtain ⟨hexistence, hfilters⟩ := Plan.matchDocument_inj (operand_ne_null_of_compile h)
    (operand_ne_null_of_compile h') hmatch
  obtain ⟨hincluded, hexcluded⟩ := Projection.document_inj
    ⟨hu.projection, storeIdField_not_mem_of_compile h⟩ ⟨hu'.projection, storeIdField_not_mem_of_compile h'⟩ hproject
  obtain ⟨hfields, hwritten⟩ := Plan.sortDocument_inj hsort
  obtain ⟨hcollection, henrichment⟩ := collection_eq_of_compile h h'
  refine run_congr hcollection hexistence hfilters (fun document hdocument => ?_) (SortKey.compareAll_congr hfields
    fun field => ?_) hskip hlimit henrichment
  · exact Projection.apply_congr hincluded hexcluded (hstore.of_documents _ document hdocument)
  · rw [hu.sort, hwritten, ← hu'.sort]

/-- No object of the three worlds has a key twice. -/
theorem distinct_worlds : worlds.Distinct := by
  intro entry hentry
  obtain rfl := List.mem_singleton.1 hentry
  intro document hdocument
  rcases List.mem_cons.1 hdocument with rfl | hdocument
  · exact Json.distinct_of_flat (by decide) (by decide)
  · rcases List.mem_cons.1 hdocument with rfl | hdocument
    · exact Json.distinct_of_flat (by decide) (by decide)
    · obtain rfl := List.mem_singleton.1 hdocument
      exact Json.distinct_of_flat (by decide) (by decide)

/-- The first page of all worlds, with some paths shown and hidden, in some order. -/
def worldPlan (shown hidden : List String) (sort : List SortKey) : Plan :=
  ⟨"world", [], [], ⟨shown, hidden⟩, sort, 0, 100, none, false⟩

/-- A request for worlds that names no field to filter by is compiled to what its control parameters say. -/
theorem compile_world (params : List (String × String)) (shown hidden : List String) (sort : List SortKey)
    (hcontrol : (Control.read params).toOption = some ⟨0, 100, shown, hidden, sort, [], false⟩)
    (hrequire : (requireAll Catalog.world (shown ++ hidden ++ [] ++ sort.map SortKey.field)).toOption = some ())
    (htokens : filterTokens params = []) :
    compile Catalog.builtin "world" params = .ok (worldPlan shown hidden sort) :=
  compile_unfiltered (by decide) hcontrol hrequire htokens

/-- A field that is named again in its direction and a path that is shown again are written once, and the answer is the
same. -/
theorem run_eq_worlds :
    ∃ plan plan',
      compile Catalog.builtin "world" [("c:sort", "world_id,world_id"), ("c:show", "world_id,world_id")] = .ok plan ∧
      compile Catalog.builtin "world" [("c:sort", "world_id"), ("c:show", "world_id")] = .ok plan' ∧
      worlds.run plan = worlds.run plan' := by
  have hplan := compile_world [("c:sort", "world_id,world_id"), ("c:show", "world_id,world_id")]
    ["world_id", "world_id"] [] [⟨"world_id", false⟩, ⟨"world_id", false⟩]
    (by decide +kernel) (by decide +kernel) (by decide +kernel)
  have hplan' := compile_world [("c:sort", "world_id"), ("c:show", "world_id")] ["world_id"] [] [⟨"world_id", false⟩]
    (by decide +kernel) (by decide +kernel) (by decide +kernel)
  refine ⟨_, _, hplan, hplan', run_eq_of_pipeline_eq hplan hplan' ⟨fun _ => rfl, ?_⟩ ⟨fun _ => rfl, ?_⟩ rfl distinct_worlds⟩
  · exact fun path _ hp => nomatch hp
  · exact fun path _ hp => nomatch hp

/-- The member of the first document of an answer, as far as it is a text. -/
def firstText (key : String) (answer : Except StoreError (List Json)) : Option String :=
  match answer with
  | .ok (document :: _) => (document.get? key).bind Json.str?
  | _ => none

/-- A pipeline alone does not determine the answer. Of two directions of a field the last is written and the first decides,
and a hidden path is written alike whether or not it is the only one that is shown. -/
theorem run_ne_of_pipeline_eq :
    (∃ plan plan', compile Catalog.builtin "world" [("c:sort", "world_id,world_id:-1")] = .ok plan ∧
      compile Catalog.builtin "world" [("c:sort", "world_id:-1")] = .ok plan' ∧ plan.pipeline = plan'.pipeline ∧
      worlds.run plan ≠ worlds.run plan') ∧
    ∃ plan plan', compile Catalog.builtin "world" [("c:show", "world_id"), ("c:hide", "world_id")] = .ok plan ∧
      compile Catalog.builtin "world" [("c:hide", "world_id")] = .ok plan' ∧ plan.pipeline = plan'.pipeline ∧
      worlds.run plan ≠ worlds.run plan' := by
  constructor
  · have hplan := compile_world [("c:sort", "world_id,world_id:-1")] [] [] [⟨"world_id", false⟩, ⟨"world_id", true⟩]
      (by decide +kernel) (by decide +kernel) (by decide +kernel)
    have hplan' := compile_world [("c:sort", "world_id:-1")] [] [] [⟨"world_id", true⟩]
      (by decide +kernel) (by decide +kernel) (by decide +kernel)
    exact ⟨_, _, hplan, hplan', rfl, fun h => absurd (congrArg (firstText "name") h) (by decide +kernel)⟩
  · have hplan := compile_world [("c:show", "world_id"), ("c:hide", "world_id")] ["world_id"] ["world_id"] []
      (by decide +kernel) (by decide +kernel) (by decide +kernel)
    have hplan' := compile_world [("c:hide", "world_id")] [] ["world_id"] []
      (by decide +kernel) (by decide +kernel) (by decide +kernel)
    exact ⟨_, _, hplan, hplan', rfl, fun h => absurd (congrArg (firstText "name") h) (by decide +kernel)⟩

end Store

end SheetQuery
