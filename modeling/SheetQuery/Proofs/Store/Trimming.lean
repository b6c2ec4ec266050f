import SheetQuery.Proofs.Store.Rendering

/-!
# Answers trimmed last

A store cuts documents down before it sorts them and looks for what is linked to them. If what it sorts and links by is left
in them, that makes no difference: the answer is the one that has the documents whole, cut down afterwards, and what is
attached to each document is the same.
-/

namespace SheetQuery

open Query Store

namespace Query

variable {projection : Projection}

/-! ## Sorting and linking -/

/-- Documents compare as their projections do when all that they are compared by is kept. -/
theorem SortKey.compareAll_apply {keys : List SortKey} (hkeeps : ∀ key ∈ keys, projection.Keeps key.field) {a b : Json}
    (ha : a.Distinct) (hb : b.Distinct) :
    compareAll keys (projection.apply a) (projection.apply b) = compareAll keys a b := by
  induction keys with
  | nil => rfl
  | cons key keys ih =>
    have hkey := hkeeps key List.mem_cons_self
    have hrest := ih fun other hother => hkeeps other (List.mem_cons_of_mem key hother)
    rw [compareAll, compareAll, hrest, SortKey.compare, SortKey.compare, Projection.lookup_apply hkey ha,
      Projection.lookup_apply hkey hb]

/-- Documents are sorted as their projections are when all that they are sorted by is kept. -/
theorem SortKey.sort_map_apply {keys : List SortKey} (hkeeps : ∀ key ∈ keys, projection.Keeps key.field)
    {documents : List Json} (h : ∀ document ∈ documents, document.Distinct) :
    sort keys (documents.map projection.apply) = (sort keys documents).map projection.apply := by
  refine stableSort_map fun a ha b hb => ?_
  rw [SortKey.compareAll_apply hkeeps (h a ha) (h b hb)]

/-- The document with an array attached under the name of the enrichment. -/
def Enrichment.attach (enrichment : Enrichment) (document : Json) (attached : List Json) : Json :=
  document.setMember enrichment.output (.arr attached)

/-- A projection that keeps the key of a document keeps what is attached to it. -/
theorem Enrichment.attachments_apply {enrichment : Enrichment}
    (hkeys : Json.pathKeys enrichment.localField = [enrichment.localField])
    (hkeeps : projection.Keeps enrichment.localField) {document : Json} (h : document.Distinct) (links nested : List Json) :
    enrichment.attachments links nested (projection.apply document) = enrichment.attachments links nested document := by
  have hget : ∀ document : Json, document.get? enrichment.localField = document.lookup enrichment.localField := by
    intro document
    rw [Json.lookup, hkeys, Json.lookupKeys_singleton]
  have hkey : enrichment.keyOf (projection.apply document) = enrichment.keyOf document := by
    rw [Enrichment.keyOf, Enrichment.keyOf, hget, hget, Projection.lookup_apply hkeeps h]
  rw [Enrichment.attachments, Enrichment.attachments, hkey]

namespace Plan

/-- The plan that shows every document whole, but for the member of the store. -/
def untrimmed (plan : Plan) : Plan :=
  { plan with projection := .whole }

/-- The plan that attaches nothing to its documents. -/
def unenriched (plan : Plan) : Plan :=
  { plan with enrichment := none }

end Plan

end Query

namespace Store

variable {store : Store} {plan : Plan}

/-! ## Runs -/

/-- Without doubled keys, what is selected whole and trimmed afterwards is what is selected. -/
theorem select_eq_map_select_untrimmed
    (hids : ∀ path ∈ plan.projection.included, ∀ keys, Json.pathKeys path ≠ storeIdField :: keys)
    (hsort : ∀ key ∈ plan.sort, plan.projection.Keeps key.field) (conditions : List Condition) {documents : List Json}
    (h : ∀ document ∈ documents, document.Distinct) :
    select plan conditions documents = (select plan.untrimmed conditions documents).map plan.projection.apply := by
  have haccepted : ∀ document ∈ documents.filter (accepts plan.existence conditions), document.Distinct :=
    fun document hdocument => h document (List.mem_filter.1 hdocument).1
  have hwhole : ∀ document ∈ (documents.filter (accepts plan.existence conditions)).map Projection.whole.apply,
      document.Distinct := by
    intro document hdocument
    obtain ⟨stored, hstored, rfl⟩ := List.mem_map.1 hdocument
    exact Projection.distinct_whole_apply (haccepted stored hstored)
  have htwice : (documents.filter (accepts plan.existence conditions)).map plan.projection.apply =
      ((documents.filter (accepts plan.existence conditions)).map Projection.whole.apply).map plan.projection.apply := by
    rw [List.map_map]
    refine List.map_congr_left fun document hdocument => ?_
    exact (Projection.apply_whole_apply hids (haccepted document hdocument)).symm
  rw [select, htwice, SortKey.sort_map_apply hsort hwhole]
  rfl

/-- No object of a selected document has a key twice if it has none in the stored documents. -/
theorem distinct_of_mem_select_untrimmed {conditions : List Condition} {documents : List Json}
    (h : ∀ document ∈ documents, document.Distinct) :
    ∀ document ∈ select plan.untrimmed conditions documents, document.Distinct := by
  intro document hdocument
  have hmem := (stableSort_perm _ _).mem_iff.1 hdocument
  obtain ⟨stored, hstored, rfl⟩ := List.mem_map.1 hmem
  exact Projection.distinct_whole_apply (h stored (List.mem_filter.1 hstored).1)

/-- Trimming the documents of a page is making the page of the trimmed documents. -/
theorem page_map (plan : Plan) (f : Json → Json) (documents : List Json) :
    page plan (documents.map f) = (page plan documents).map f := by
  rw [page, page, List.map_take, List.map_drop]

theorem mem_of_mem_page {documents : List Json} {document : Json} (h : document ∈ page plan documents) :
    document ∈ documents :=
  List.mem_of_mem_drop (List.mem_of_mem_take h)

/-- What a plan fails for lies in its collection and its comparisons alone. -/
theorem run_error_or [PatternEngine] (store : Store) (plan : Plan) :
    (∃ error, ∀ plan' : Plan, plan'.collection = plan.collection → plan'.filters = plan.filters →
      store.run plan' = .error error) ∨
    ∃ documents conditions, store.find? plan.collection = some documents ∧
      Condition.ofClauses plan.filters = .ok conditions := by
  cases hf : store.find? plan.collection with
  | none =>
    refine .inl ⟨.collectionUnavailable plan.collection, fun plan' hcollection _ => ?_⟩
    rw [run, hcollection, hf]
  | some documents =>
    cases hc : Condition.ofClauses plan.filters with
    | error error =>
      refine .inl ⟨error, fun plan' hcollection hfilters => ?_⟩
      rw [run, hcollection, hf]
      simp only [hfilters, hc]
    | ok conditions => exact .inr ⟨documents, conditions, rfl, rfl⟩

/-- Enriching documents is attaching to each of them what belongs to it. -/
theorem attach_eq_zipWith {enrichment : Enrichment} (h : plan.enrichment = some enrichment) (documents : List Json) :
    store.attach plan documents = List.zipWith enrichment.attach documents
      (documents.map (enrichment.attachments (store.documents enrichment.source)
        (store.documents enrichment.nestedSource))) := by
  rw [Store.attach, h, List.zipWith_map_right, List.zipWith_self]
  rfl

/-- Projection only trims. If a compiled plan keeps what it sorts by and what it links by, its answer without enrichment is
the answer that has the documents whole, trimmed one by one and in the same order, and if one of the two fails so does the
other with the same error. With enrichment each document is given the same array as when the documents are whole. -/
theorem run_eq_map_run_untrimmed [PatternEngine] {name : String} {params : List (String × String)}
    (h : compile Catalog.builtin name params = .ok plan) (hsort : ∀ key ∈ plan.sort, plan.projection.Keeps key.field)
    (hlink : ∀ enrichment, plan.enrichment = some enrichment → plan.projection.Keeps enrichment.localField)
    (hstore : store.Distinct) :
    store.run plan.unenriched = List.map plan.projection.apply <$> store.run plan.untrimmed.unenriched ∧
      ∀ enrichment, plan.enrichment = some enrichment → ∀ shown, store.run plan.untrimmed.unenriched = .ok shown →
        ∃ attached : List (List Json), attached.length = shown.length ∧
          store.run plan.untrimmed = .ok (List.zipWith enrichment.attach shown attached) ∧
          store.run plan = .ok (List.zipWith enrichment.attach (shown.map plan.projection.apply) attached) := by
  have hids : ∀ path ∈ plan.projection.included, ∀ keys, Json.pathKeys path ≠ storeIdField :: keys :=
    fun path hpath => pathKeys_ne_of_compile h path (List.mem_append_left _ hpath)
  rcases run_error_or store plan with ⟨error, herror⟩ | ⟨documents, conditions, hf, hc⟩
  · rw [herror plan.unenriched rfl rfl, herror plan.untrimmed.unenriched rfl rfl]
    exact ⟨rfl, fun enrichment _ shown hshown => nomatch hshown⟩
  · have hdocuments : ∀ document ∈ documents, document.Distinct := by
      have hall := hstore.of_documents plan.collection
      rwa [Store.documents, hf] at hall
    have hselect := select_eq_map_select_untrimmed hids hsort conditions hdocuments
    have hpage : page plan (select plan conditions documents) =
        (page plan (select plan.untrimmed conditions documents)).map plan.projection.apply := by
      rw [hselect, page_map]
    have hwhole : store.run plan.untrimmed.unenriched = .ok (page plan (select plan.untrimmed conditions documents)) :=
      run_eq plan.untrimmed.unenriched hf hc
    constructor
    · rw [hwhole, run_eq plan.unenriched hf hc]
      exact congrArg Except.ok hpage
    · intro enrichment henrichment shown hshown
      obtain rfl := Except.ok.inj (hwhole.symm.trans hshown)
      have hkeys := localField_of_compile h henrichment
      have hattached : ∀ document ∈ page plan (select plan.untrimmed conditions documents),
          enrichment.attachments (store.documents enrichment.source) (store.documents enrichment.nestedSource)
            (plan.projection.apply document) =
          enrichment.attachments (store.documents enrichment.source) (store.documents enrichment.nestedSource) document :=
        fun document hdocument => Enrichment.attachments_apply hkeys (hlink enrichment henrichment)
          (distinct_of_mem_select_untrimmed hdocuments document (mem_of_mem_page hdocument)) _ _
      refine ⟨(page plan (select plan.untrimmed conditions documents)).map (enrichment.attachments
        (store.documents enrichment.source) (store.documents enrichment.nestedSource)), List.length_map _, ?_, ?_⟩
      · have huntrimmed : plan.untrimmed.enrichment = some enrichment := henrichment
        rw [run_eq plan.untrimmed hf hc, attach_eq_zipWith huntrimmed]
        rfl
      · rw [run_eq plan hf hc, attach_eq_zipWith henrichment, hpage, List.map_map]
        exact congrArg (fun attached => Except.ok (List.zipWith enrichment.attach _ attached))
          (List.map_congr_left hattached)

/-- Two groups of fire modes, and a link from each to a fire mode. -/
def fireGroups : Store :=
  (empty.insert "fire_group"
    [.obj [("_id", .ofNat 1), ("fire_group_id", .ofNat 7), ("chamber_duration_ms", .ofNat 250)],
      .obj [("_id", .ofNat 2), ("fire_group_id", .ofNat 8)]]).insert "fire_group_to_fire_mode"
    [.obj [("fire_group_id", .ofNat 7), ("fire_mode_id", .ofNat 70), ("fire_mode_index", .ofNat 0)],
      .obj [("fire_group_id", .ofNat 8), ("fire_mode_id", .ofNat 80), ("fire_mode_index", .ofNat 1)]]

/-- No object of the groups and their links has a key twice. -/
theorem distinct_fireGroups : fireGroups.Distinct := by
  have hflat : ∀ entry ∈ fireGroups.collections, ∀ document ∈ entry.2, document.isFlat = true := by decide +kernel
  exact fun entry hentry document hdocument => Json.distinct_of_isFlat (hflat entry hentry document hdocument)

/-- The groups from the greatest number to the least, without all that is not shown or hidden again. -/
theorem run_eq_map_run_untrimmed_fireGroups :
    ∃ plan, compile Catalog.builtin "fire_group" [("c:sort", "fire_group_id:-1"),
        ("c:show", "fire_group_id,chamber_duration_ms"), ("c:hide", "chamber_duration_ms")] = .ok plan ∧
      fireGroups.run plan.unenriched =
        List.map plan.projection.apply <$> fireGroups.run plan.untrimmed.unenriched ∧
      ∃ shown attached, fireGroups.run plan.untrimmed.unenriched = .ok shown ∧ shown.length = 2 ∧
        fireGroups.run plan =
          .ok (List.zipWith Enrichment.fireGroup.attach (shown.map plan.projection.apply) attached) := by
  have hcollection : (Catalog.builtin.require "fire_group").toOption = some Catalog.fireGroup := by decide
  have hcontrol : (Control.read [("c:sort", "fire_group_id:-1"), ("c:show", "fire_group_id,chamber_duration_ms"),
      ("c:hide", "chamber_duration_ms")]).toOption = some ⟨0, 100, ["fire_group_id", "chamber_duration_ms"],
      ["chamber_duration_ms"], [⟨"fire_group_id", true⟩], [], false⟩ := by
    decide +kernel
  have hplan := compile_unfiltered hcollection hcontrol (by decide +kernel) (by decide +kernel)
  have hkeeps : Projection.Keeps ⟨["fire_group_id", "chamber_duration_ms"], ["chamber_duration_ms"]⟩ "fire_group_id" := by
    decide +kernel
  have hsort : ∀ key ∈ [(⟨"fire_group_id", true⟩ : SortKey)],
      Projection.Keeps ⟨["fire_group_id", "chamber_duration_ms"], ["chamber_duration_ms"]⟩ key.field := by
    intro key hkey
    rw [List.mem_singleton.1 hkey]
    exact hkeeps
  obtain ⟨hplain, henriched⟩ := run_eq_map_run_untrimmed hplan hsort (fun enrichment he => Option.some.inj he ▸ hkeeps)
    distinct_fireGroups
  obtain ⟨attached, -, -, hrun⟩ := henriched Enrichment.fireGroup rfl _ rfl
  exact ⟨_, hplan, hplain, _, attached, rfl, rfl, hrun⟩

end Store

end SheetQuery
