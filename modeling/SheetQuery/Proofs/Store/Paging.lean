import SheetQuery.Pattern.Engine
import SheetQuery.Proofs.Outcome
import SheetQuery.Proofs.Sorting
import SheetQuery.Store.Basic

/-!
# Pages of an answer

A plan selects and sorts before it pages, and it enriches each document of the page by itself. So the page is all that the
plan asks of paging: every page is a stretch of one and the same list, the answer without paging, and pages that follow each
other make up the list again. That list has the accepted documents, each as often as the collection has it.
-/

namespace SheetQuery

open Query

/-! ## Stretches of a list -/

/-- The number of pages of a size that so many items fill, the last of them perhaps not quite. -/
def pageCount (items size : Nat) : Nat :=
  (items + size - 1) / size

/-- Pages that follow each other are the list up to the end of the last of them. -/
theorem flatMap_pages {α : Type} (xs : List α) (size count : Nat) :
    ((List.range count).flatMap fun k => (xs.drop (k * size)).take size) = xs.take (count * size) := by
  induction count with
  | zero => rw [Nat.zero_mul, List.take_zero]; rfl
  | succ count ih =>
    rw [List.range_succ, List.flatMap_append, ih, List.flatMap_singleton, Nat.succ_mul, List.take_add]

/-- The pages of a list reach its end. -/
theorem le_pageCount_mul {items size : Nat} (h : 0 < size) : items ≤ pageCount items size * size := by
  have hdiv := Nat.div_add_mod (items + size - 1) size
  have hmod := Nat.mod_lt (items + size - 1) h
  rw [Nat.mul_comm] at hdiv
  rw [pageCount]
  omega

/-- Every page of a list begins before its end. -/
theorem mul_lt_of_lt_pageCount {items size k : Nat} (h : 0 < size) (hk : k < pageCount items size) : k * size < items := by
  have hle : (k + 1) * size ≤ items + size - 1 :=
    Nat.le_trans (Nat.mul_le_mul_right size hk) (Nat.div_mul_le_self _ _)
  rw [Nat.succ_mul] at hle
  omega

namespace Store

variable {store : Store} {plan : Plan}

section Runs

variable [PatternEngine]

/-! ## Runs -/

/-- Whether a comparison holds of a document. -/
def clauseHolds (document : Json) (clause : Clause) : Bool :=
  match Condition.ofClause clause with
  | .ok condition => condition.holds document
  | .error _ => false

/-- Whether a document has every field that a plan asks for, and every comparison of the plan holds of it. -/
def satisfies (plan : Plan) (document : Json) : Bool :=
  plan.existence.all (hasValue document) && plan.filters.all (clauseHolds document)

/-- The conditions of comparisons all hold of a document when the comparisons do. -/
theorem all_holds {clauses : List Clause} {conditions : List Condition}
    (h : Condition.ofClauses clauses = .ok conditions) (document : Json) :
    (conditions.all fun condition => condition.holds document) = clauses.all (clauseHolds document) := by
  induction clauses generalizing conditions with
  | nil =>
    obtain rfl := Except.ok.inj h
    rfl
  | cons clause clauses ih =>
    rw [Condition.ofClauses] at h
    obtain ⟨condition, hc, h⟩ := exists_of_bind_ok h
    obtain ⟨rest, hr, h⟩ := exists_of_bind_ok h
    obtain rfl := Except.ok.inj h
    rw [List.all_cons, List.all_cons, clauseHolds, hc, ih hr]

/-- The documents that are accepted are those that satisfy the plan. -/
theorem accepts_eq_satisfies {conditions : List Condition} (h : Condition.ofClauses plan.filters = .ok conditions)
    (document : Json) : accepts plan.existence conditions document = satisfies plan document := by
  rw [accepts, satisfies, all_holds h]

/-- A run that succeeds has found its collection and read its patterns. -/
theorem exists_of_run {answer : List Json} (h : store.run plan = .ok answer) :
    ∃ documents conditions, store.find? plan.collection = some documents ∧
      Condition.ofClauses plan.filters = .ok conditions := by
  rw [run] at h
  cases hf : store.find? plan.collection with
  | none => rw [hf] at h; nomatch h
  | some documents =>
    rw [hf] at h
    cases hc : Condition.ofClauses plan.filters with
    | error e => rw [hc] at h; nomatch h
    | ok conditions => exact ⟨documents, conditions, rfl, rfl⟩

/-- What a run gives that has found its collection and read its patterns. -/
theorem run_eq (plan : Plan) {documents : List Json} {conditions : List Condition}
    (hf : store.find? plan.collection = some documents) (hc : Condition.ofClauses plan.filters = .ok conditions) :
    store.run plan = .ok (store.attach plan (page plan (select plan conditions documents))) := by
  rw [run, hf]
  simp only [hc]

/-- An answer is the page of what is selected from a collection, with what is attached to it. -/
theorem exists_eq_of_run {answer : List Json} (h : store.run plan = .ok answer) :
    ∃ documents conditions, store.find? plan.collection = some documents ∧
      Condition.ofClauses plan.filters = .ok conditions ∧
      answer = store.attach plan (page plan (select plan conditions documents)) := by
  obtain ⟨documents, conditions, hf, hc⟩ := exists_of_run h
  rw [run_eq plan hf hc] at h
  exact ⟨documents, conditions, hf, hc, (Except.ok.inj h).symm⟩

omit [PatternEngine] in
/-- Enriching a stretch of documents gives that stretch of the enriched documents. -/
theorem attach_drop_take (plan : Plan) (documents : List Json) (skip limit : Nat) :
    store.attach plan ((documents.drop skip).take limit) = ((store.attach plan documents).drop skip).take limit := by
  rw [attach, attach]
  cases plan.enrichment with
  | none => rfl
  | some enrichment => simp only [List.map_take, List.map_drop]

/-- Selecting and sorting keeps each accepted document, as the plan shows it, and no other. -/
theorem select_perm {conditions : List Condition} (hc : Condition.ofClauses plan.filters = .ok conditions)
    (documents : List Json) :
    (select plan conditions documents).Perm ((documents.filter (satisfies plan)).map plan.projection.apply) := by
  have haccepts : accepts plan.existence conditions = satisfies plan := funext (accepts_eq_satisfies hc)
  rw [select, SortKey.sort, haccepts]
  exact stableSort_perm _ _

/-- A plan selects at most the documents that there are. -/
theorem length_select_le {conditions : List Condition} (hc : Condition.ofClauses plan.filters = .ok conditions)
    (documents : List Json) : (select plan conditions documents).length ≤ documents.length := by
  rw [(select_perm hc documents).length_eq, List.length_map]
  exact List.length_filter_le _ _

omit [PatternEngine] in
/-- Answers that are all known make up the list of them. -/
theorem mapM_ok {α β ε : Type} {f : α → Except ε β} {g : α → β} {xs : List α} (h : ∀ x ∈ xs, f x = .ok (g x)) :
    xs.mapM f = .ok (xs.map g) := by
  induction xs with
  | nil => rfl
  | cons x xs ih =>
    rw [List.mapM_cons, h x List.mem_cons_self, ih fun y hy => h y (List.mem_cons_of_mem x hy)]
    rfl

/-! ## Paging -/

/-- A plan with another page. -/
def withPage (plan : Plan) (skip limit : UInt64) : Plan :=
  { plan with skip, limit }

/-- Paging neither loses nor repeats documents. If a plan runs, the answer without paging is one list: every page is the
stretch of it that begins behind the documents to skip and is as long as the limit, pages of one size that follow each other
make it up, and without enrichment it has the documents that satisfy the plan, as the plan shows them, in some order. -/
theorem run_withPage {answer : List Json} (hrun : store.run plan = .ok answer) {whole : UInt64}
    (hwhole : (store.documents plan.collection).length ≤ whole.toNat) :
    ∃ full, store.run (withPage plan 0 whole) = .ok full ∧
      (∀ skip limit, store.run (withPage plan skip limit) = .ok ((full.drop skip.toNat).take limit.toNat)) ∧
      (∀ size : UInt64, 0 < size.toNat → ∃ pages,
        ((List.range (pageCount full.length size.toNat)).mapM fun k =>
          store.run (withPage plan (.ofNat (k * size.toNat)) size)) = .ok pages ∧ pages.flatten = full) ∧
      ∃ shown, store.run { withPage plan 0 whole with enrichment := none } = .ok shown ∧
        shown.Perm (((store.documents plan.collection).filter (satisfies plan)).map plan.projection.apply) := by
  obtain ⟨documents, conditions, hf, hc⟩ := exists_of_run hrun
  have hdocuments : store.documents plan.collection = documents := by
    rw [Store.documents, hf]
    rfl
  rw [hdocuments] at hwhole ⊢
  have hlength := Nat.le_trans (length_select_le hc documents) hwhole
  have hpage : page (withPage plan 0 whole) (select plan conditions documents) = select plan conditions documents :=
    List.take_of_length_le hlength
  let full := store.attach plan (select plan conditions documents)
  have hslice : ∀ skip limit, store.run (withPage plan skip limit) = .ok ((full.drop skip.toNat).take limit.toNat) := by
    intro skip limit
    rw [run_eq (withPage plan skip limit) hf hc]
    exact congrArg Except.ok (attach_drop_take plan _ _ _)
  have hfull : full.length = (select plan conditions documents).length := by
    show (store.attach plan (select plan conditions documents)).length = _
    rw [attach]
    split
    · rfl
    · exact List.length_map _
  refine ⟨full, ?_, hslice, fun size hsize => ⟨(List.range (pageCount full.length size.toNat)).map fun k =>
    (full.drop (k * size.toNat)).take size.toNat, mapM_ok fun k hk => ?_, ?_⟩, select plan conditions documents, ?_, ?_⟩
  · rw [run_eq (withPage plan 0 whole) hf hc]
    exact congrArg (fun shown => Except.ok (store.attach plan shown)) hpage
  · -- The first document of a page is one of the list, so the number of documents to skip is a word.
    have hbefore := mul_lt_of_lt_pageCount hsize (List.mem_range.1 hk)
    have hword : (UInt64.ofNat (k * size.toNat)).toNat = k * size.toNat := by
      have hwhole := whole.toNat_lt_size
      exact UInt64.toNat_ofNat_of_lt' (by omega)
    rw [hslice, hword]
  · rw [← List.flatMap_def, flatMap_pages]
    exact List.take_of_length_le (le_pageCount_mul hsize)
  · rw [run_eq { withPage plan 0 whole with enrichment := none } hf hc]
    exact congrArg Except.ok hpage
  · exact select_perm hc documents

end Runs

/-- Three worlds, the second without a name. -/
def worlds : Store :=
  empty.insert "world" [.obj [("world_id", .ofNat 1), ("name", .str "Osprey")], .obj [("world_id", .ofNat 10)],
    .obj [("world_id", .ofNat 40), ("name", .str "SolTech")]]

/-- The worlds that have a name, from the greatest number to the least, one to a page. -/
def namedWorlds : Plan :=
  ⟨"world", [⟨"world_id", .gt, .ofNat 0⟩], ["name"], ⟨[], []⟩, [⟨"world_id", true⟩], 0, 1, none, false⟩

/-- The pages of the worlds that have a name make up the list of them. -/
theorem run_withPage_worlds :
    ∃ full, worlds.run (withPage namedWorlds 0 3) = .ok full ∧
      (∀ skip limit, worlds.run (withPage namedWorlds skip limit) = .ok ((full.drop skip.toNat).take limit.toNat)) ∧
      ∃ pages, ((List.range (pageCount full.length 1)).mapM fun k =>
        worlds.run (withPage namedWorlds (.ofNat (k * 1)) 1)) = .ok pages ∧ pages.flatten = full := by
  have hrun : worlds.run namedWorlds = .ok [.obj [("world_id", .ofNat 40), ("name", .str "SolTech")]] := rfl
  have hwhole : (worlds.documents namedWorlds.collection).length ≤ (3 : UInt64).toNat := by decide
  obtain ⟨full, hfull, hslice, hpages, -⟩ := run_withPage hrun hwhole
  exact ⟨full, hfull, hslice, hpages 1 (by decide)⟩

end Store

end SheetQuery
