import Mathlib.Data.List.Perm.Basic
import SheetQuery.Proofs.Query.Acceptance
import SheetQuery.Proofs.Store.Paging

/-!
# The order of parameters

The parameters of a request do not depend on each other but for one thing: the values of one control parameter count in their
order. Requests with the same parameters, whose control parameters of each name come in one order, are compiled or refused
together. Their plans differ in the order of the comparisons only, and this decides nothing but which of several patterns
that are refused is told (`run_reordered`).
-/

namespace SheetQuery

open Query

namespace Query

/-! ## Requests -/

/-- Two requests have the same parameters, and those of each control name in the same order. -/
structure Reordered (params params' : List (String × String)) : Prop where
  perm : params.Perm params'
  inOrder : ∀ name, (params.filter fun param => Control.name? param.1 == some name) =
    params'.filter fun param => Control.name? param.1 == some name

variable {params params' : List (String × String)}

theorem Reordered.symm (h : Reordered params params') : Reordered params' params where
  perm := h.perm.symm
  inOrder name := (h.inOrder name).symm

/-- Control parameters say the same in either order. -/
theorem read_reordered (h : Reordered params params') {control : Control} (hread : Control.read params = .ok control) :
    Control.read params' = .ok control := by
  obtain ⟨hvalid, hcontrol⟩ := Control.read_eq_ok_iff.1 hread
  have hvalues : Control.valuesOf params' = Control.valuesOf params := by
    funext name
    rw [Control.valuesOf, Control.valuesOf, h.inOrder name]
  rw [List.findSome?_eq_none_iff] at hvalid
  have hvalid' : params'.findSome? Control.fault? = none := by
    rw [List.findSome?_eq_none_iff]
    intro param hparam
    exact hvalid param (h.perm.mem_iff.2 hparam)
  exact Control.read_eq_ok_iff.2 ⟨hvalid', by rw [hvalues, hcontrol]⟩

/-- The tokens are the same but for their order. -/
theorem filterTokens_perm (h : params.Perm params') : (filterTokens params).Perm (filterTokens params') :=
  (h.filter _).flatMap_right _

/-- Tokens in another order become the same clauses in another order. -/
theorem typedClauses_perm {collection : Collection} {tokens tokens' : List Token} (h : tokens.Perm tokens')
    {clauses : List Clause} (hclauses : typedClauses collection tokens = .ok clauses) :
    ∃ clauses', typedClauses collection tokens' = .ok clauses' ∧ clauses'.Perm clauses := by
  obtain ⟨clauses', hclauses', hperm⟩ := List.perm_comp_forall₂ h.symm (typedClauses_eq_ok_iff.1 hclauses)
  exact ⟨clauses', typedClauses_eq_ok_iff.2 hclauses', hperm⟩

/-- A request with its parameters in another order is compiled to the same plan but for the order of the comparisons. -/
theorem compile_reordered (h : Reordered params params') {catalog : Catalog} {name : String} {plan : Plan}
    (hplan : compile catalog name params = .ok plan) :
    ∃ filters, compile catalog name params' = .ok { plan with filters } ∧ filters.Perm plan.filters := by
  obtain ⟨collection, control, filters, hcollection, hcontrol, hrequire, hfilters, rfl⟩ := exists_of_compile hplan
  obtain ⟨filters', hfilters', hperm⟩ := typedClauses_perm (filterTokens_perm h.perm) hfilters
  exact ⟨filters', compile_eq hcollection (read_reordered h hcontrol) hrequire hfilters', hperm⟩

/-- A plan has a comparison with a pattern that is refused, for the reason that is told. -/
def Plan.HasUnsupported [PatternEngine] (plan : Plan) (fault : PatternFault) : Prop :=
  ∃ clause ∈ plan.filters, clause.operator.isRegex = true ∧ clause.operand.str?.getD "" = fault.pattern ∧
    PatternEngine.read fault.pattern = .error fault.reason

/-- There is one reason for which a pattern is refused. -/
theorem Plan.HasUnsupported.eq_of_pattern_eq [PatternEngine] {plan plan' : Plan} {fault fault' : PatternFault}
    (h : plan.HasUnsupported fault) (h' : plan'.HasUnsupported fault') (hpattern : fault.pattern = fault'.pattern) :
    fault = fault' := by
  obtain ⟨-, -, -, -, hread⟩ := h
  obtain ⟨-, -, -, -, hread'⟩ := h'
  rw [hpattern, hread'] at hread
  obtain ⟨pattern, reason⟩ := fault
  exact congr (congrArg PatternFault.mk hpattern) (Except.error.inj hread).symm

end Query

namespace Store

section Runs

variable [PatternEngine]

/-! ## Runs -/

/-- The condition of a clause is missing only where its pattern is refused. -/
theorem ofClause_eq_error {clause : Clause} {e : StoreError} (h : Condition.ofClause clause = .error e) :
    ∃ fault, e = .unsupportedPattern fault ∧ clause.operator.isRegex = true ∧
      clause.operand.str?.getD "" = fault.pattern ∧ PatternEngine.read fault.pattern = .error fault.reason := by
  unfold Condition.ofClause at h
  split at h
  · rename_i hregex
    dsimp only at h
    split at h
    · cases h
    · rename_i reason hread
      exact ⟨_, (Except.error.inj h).symm, hregex, rfl, hread⟩
  · cases h

/-- Clauses are told the first whose pattern is refused. -/
theorem error?_ofClauses {clauses : List Clause} :
    error? (Condition.ofClauses clauses) = clauses.findSome? fun clause => error? (Condition.ofClause clause) := by
  induction clauses with
  | nil => rfl
  | cons clause clauses ih =>
    rw [Condition.ofClauses, List.findSome?_cons]
    cases Condition.ofClause clause with
    | error e => rfl
    | ok condition => exact (error?_bind_ok _ (condition :: ·)).trans ih

/-- The conditions of clauses are there or not in either order. -/
theorem exists_ofClauses_perm {clauses clauses' : List Clause} (h : clauses'.Perm clauses) {conditions : List Condition}
    (hconditions : Condition.ofClauses clauses = .ok conditions) :
    ∃ conditions', Condition.ofClauses clauses' = .ok conditions' := by
  have hall : ∀ clause ∈ clauses, error? (Condition.ofClause clause) = none := by
    rw [← List.findSome?_eq_none_iff, ← error?_ofClauses, hconditions]
    rfl
  rw [← error?_eq_none_iff, error?_ofClauses, List.findSome?_eq_none_iff]
  intro clause hclause
  exact hall clause (h.mem_iff.1 hclause)

/-- A pattern that is told is refused, and stands in one of the clauses. -/
theorem hasUnsupported_of_ofClauses {plan : Plan} {e : StoreError} (h : Condition.ofClauses plan.filters = .error e) :
    ∃ fault, e = .unsupportedPattern fault ∧ plan.HasUnsupported fault := by
  rw [← error?_eq_some_iff, error?_ofClauses] at h
  obtain ⟨clause, hclause, he⟩ := List.exists_of_findSome?_eq_some h
  obtain ⟨fault, rfl, hregex, hoperand, hread⟩ := ofClause_eq_error (error?_eq_some_iff.1 he)
  exact ⟨fault, rfl, clause, hclause, hregex, hoperand, hread⟩

/-- A pattern that is refused keeps the conditions from being made. -/
theorem exists_error_of_hasUnsupported {plan : Plan} {fault : PatternFault} (h : plan.HasUnsupported fault) :
    ∃ e, Condition.ofClauses plan.filters = .error e := by
  obtain ⟨clause, hclause, hregex, hoperand, hread⟩ := h
  have herror : error? (Condition.ofClause clause) = some (.unsupportedPattern fault) := by
    rw [Condition.ofClause, if_pos hregex]
    simp only [hoperand, hread]
    rfl
  have hsome : error? (Condition.ofClauses plan.filters) ≠ none := by
    rw [error?_ofClauses]
    intro hnone
    rw [List.findSome?_eq_none_iff.1 hnone clause hclause] at herror
    nomatch herror
  obtain ⟨e, he⟩ := Option.ne_none_iff_exists'.1 hsome
  exact ⟨e, error?_eq_some_iff.1 he⟩

/-- The same documents satisfy a plan whichever order its comparisons are in. -/
theorem satisfies_perm {plan : Plan} {filters : List Clause} (h : filters.Perm plan.filters) (document : Json) :
    satisfies { plan with filters } document = satisfies plan document := by
  rw [satisfies, satisfies, h.all_eq]

/-- A plan that runs gives the same answer whichever order its comparisons are in. -/
theorem run_perm {store : Store} {plan : Plan} {filters : List Clause} (h : filters.Perm plan.filters)
    {conditions : List Condition} (hconditions : Condition.ofClauses plan.filters = .ok conditions) :
    store.run { plan with filters } = store.run plan := by
  obtain ⟨conditions', hconditions'⟩ := exists_ofClauses_perm h hconditions
  have hread : Condition.ofClauses ({ plan with filters } : Plan).filters = .ok conditions' := hconditions'
  cases hfind : store.find? plan.collection with
  | none => rw [run, run, hfind]
  | some documents =>
    have haccepts : accepts plan.existence conditions' = accepts plan.existence conditions := by
      funext document
      calc accepts plan.existence conditions' document
          = satisfies { plan with filters } document := accepts_eq_satisfies hread document
        _ = satisfies plan document := satisfies_perm h document
        _ = accepts plan.existence conditions document := (accepts_eq_satisfies hconditions document).symm
    rw [run_eq { plan with filters } hfind hread, run_eq plan hfind hconditions]
    simp only [select, haccepts]
    rfl

/-- A plan with a pattern that is refused is told so, if its collection is there. -/
theorem run_eq_error {store : Store} {plan : Plan} {documents : List Json} {e : StoreError}
    (hfind : store.find? plan.collection = some documents) (he : Condition.ofClauses plan.filters = .error e) :
    store.run plan = .error e := by
  rw [run, hfind]
  simp only [he]

/-- The order of the parameters does not matter, so long as those of each control name keep theirs. Both requests are
compiled or neither is, and both plans get one answer or one error, the reason for which a pattern is refused included, except
that of several patterns that are refused each may be told another. -/
theorem run_reordered {params params' : List (String × String)} (h : Reordered params params') (catalog : Catalog)
    (name : String) (store : Store) :
    ((∃ plan, compile catalog name params = .ok plan) ↔ ∃ plan, compile catalog name params' = .ok plan) ∧
    ∀ plan plan', compile catalog name params = .ok plan → compile catalog name params' = .ok plan' →
      store.run plan = store.run plan' ∨
        ∃ fault fault', fault.pattern ≠ fault'.pattern ∧ plan.HasUnsupported fault ∧ plan.HasUnsupported fault' ∧
          store.run plan = .error (.unsupportedPattern fault) ∧
          store.run plan' = .error (.unsupportedPattern fault') := by
  constructor
  · constructor
    · rintro ⟨plan, hplan⟩
      obtain ⟨filters, hcompiled, -⟩ := compile_reordered h hplan
      exact ⟨_, hcompiled⟩
    · rintro ⟨plan, hplan⟩
      obtain ⟨filters, hcompiled, -⟩ := compile_reordered h.symm hplan
      exact ⟨_, hcompiled⟩
  · intro plan plan' hplan hplan'
    obtain ⟨filters, hcompiled, hperm⟩ := compile_reordered h hplan
    obtain rfl := Except.ok.inj (hcompiled.symm.trans hplan')
    cases hconditions : Condition.ofClauses plan.filters with
    | ok conditions => exact .inl (run_perm hperm hconditions).symm
    | error e =>
      obtain ⟨fault, rfl, hfault⟩ := hasUnsupported_of_ofClauses hconditions
      cases hfind : store.find? plan.collection with
      | none =>
        left
        rw [run, run, hfind]
      | some documents =>
        have hrun := run_eq_error hfind hconditions
        cases hconditions' : Condition.ofClauses filters with
        | ok conditions' =>
          obtain ⟨conditions, hread⟩ := exists_ofClauses_perm hperm.symm hconditions'
          rw [hconditions] at hread
          cases hread
        | error e' =>
          have hread : Condition.ofClauses ({ plan with filters } : Plan).filters = .error e' := hconditions'
          have hrun' : store.run { plan with filters } = .error e' := run_eq_error hfind hread
          obtain ⟨fault', rfl, clause, hclause, hrefused⟩ := hasUnsupported_of_ofClauses hread
          have hfault' : plan.HasUnsupported fault' := ⟨clause, hperm.mem_iff.1 hclause, hrefused⟩
          by_cases hsame : fault.pattern = fault'.pattern
          · left
            rw [hrun, hrun', hfault.eq_of_pattern_eq hfault' hsame]
          · right
            exact ⟨fault, fault', hsame, hfault, hfault', hrun, hrun'⟩

end Runs

/-- The first page of the worlds that some comparisons hold of, from the last name to the first. -/
def worldsByName (filters : List Clause) : Plan :=
  ⟨"world", filters, [], ⟨[], []⟩, [⟨"name", true⟩, ⟨"world_id", false⟩], 0, 100, none, false⟩

/-- Of two comparisons and two keys to sort by, only the keys have to keep their order. -/
theorem run_reordered_worlds :
    ∃ plan plan',
      compile Catalog.builtin "world"
        [("c:sort", "name:-1"), ("world_id", ">1"), ("c:sort", "world_id"), ("world_id", "<50")] = .ok plan ∧
      compile Catalog.builtin "world"
        [("world_id", "<50"), ("c:sort", "name:-1"), ("world_id", ">1"), ("c:sort", "world_id")] = .ok plan' ∧
      worlds.run plan = worlds.run plan' := by
  have hreordered : Reordered
      [("c:sort", "name:-1"), ("world_id", ">1"), ("c:sort", "world_id"), ("world_id", "<50")]
      [("world_id", "<50"), ("c:sort", "name:-1"), ("world_id", ">1"), ("c:sort", "world_id")] := by
    refine ⟨by decide, fun name => ?_⟩
    have hsort : Control.name? "c:sort" = some "sort" := by decide
    have hworld : Control.name? "world_id" = none := by decide
    simp [List.filter_cons, hsort, hworld]
  have hplan : compile Catalog.builtin "world"
      [("c:sort", "name:-1"), ("world_id", ">1"), ("c:sort", "world_id"), ("world_id", "<50")] =
        .ok (worldsByName [⟨"world_id", .gt, .ofNat 1⟩, ⟨"world_id", .lt, .ofNat 50⟩]) := rfl
  have hplan' : compile Catalog.builtin "world"
      [("world_id", "<50"), ("c:sort", "name:-1"), ("world_id", ">1"), ("c:sort", "world_id")] =
        .ok (worldsByName [⟨"world_id", .lt, .ofNat 50⟩, ⟨"world_id", .gt, .ofNat 1⟩]) := rfl
  refine ⟨_, _, hplan, hplan', ?_⟩
  rcases (run_reordered hreordered Catalog.builtin "world" worlds).2 _ _ hplan hplan' with
    hsame | ⟨fault, _, -, ⟨clause, hclause, hregex, -⟩, -⟩
  · exact hsame
  · -- Neither comparison is with a pattern.
    rcases List.mem_cons.1 hclause with rfl | hclause
    · cases hregex
    · obtain rfl := List.mem_singleton.1 hclause
      cases hregex

end Store

end SheetQuery
