import SheetQuery.Pattern.Engine
import SheetQuery.Proofs.Json.ReadBack
import SheetQuery.Proofs.Store.Matching
import SheetQuery.Proofs.Store.Reordering
import SheetQuery.Service.Query

/-!
# How a query ends

A request for a collection goes through three hands, and each can end it: it is compiled, the store looks for the collection,
and the patterns are read. Which of them ends it shows in the status alone (`Ends`), and an earlier one hides what a later one
would have found. A request that gets past all three is answered with a page whose size is known from the documents that are
stored (`answered`).
-/

namespace SheetQuery

open Query

/-! ## Requests that are compiled -/

namespace Query

variable {catalog : Catalog} {name : String} {params : List (String × String)} {plan : Plan}

/-- A plan is for the collection that is asked for. -/
theorem collection_of_compile (h : compile catalog name params = .ok plan) : plan.collection = name := by
  obtain ⟨collection, control, filters, hcollection, -, -, -, rfl⟩ := exists_of_compile h
  exact name_of_find? (require_eq_ok_iff.1 hcollection)

/-- A plan begins its page where the request asks for, makes it as large, and tells the time if it is asked for. -/
theorem asks_of_compile (h : compile catalog name params = .ok plan) :
    AsksStart params plan.skip.toNat ∧ AsksLimit params plan.limit.toNat ∧ AsksTiming params plan.timing := by
  obtain ⟨collection, control, filters, -, hcontrol, -, -, rfl⟩ := exists_of_compile h
  exact ⟨asksStart_of_read hcontrol, asksLimit_of_read hcontrol, asksTiming_of_read hcontrol⟩

/-- A request for a collection that is not in the catalog is not compiled. -/
theorem compile_of_unlisted (h : catalog.find? name = none) (params : List (String × String)) :
    compile catalog name params = .error (.unknownCollection name) := by
  rw [compile, Catalog.require, h]
  rfl

/-- The collection of a request that is compiled is in the catalog. -/
theorem listed_of_compile (h : compile catalog name params = .ok plan) : catalog.find? name ≠ none := by
  intro hnone
  rw [compile_of_unlisted hnone] at h
  nomatch h

/-- Only of a collection that is not in the catalog is it told that it is not found. -/
theorem status_of_compile {e : QueryError} (h : compile catalog name params = .error e) :
    e.status = if catalog.find? name = none then 404 else 400 := by
  split
  · rename_i hnone
    rw [compile_of_unlisted hnone] at h
    obtain rfl := Except.error.inj h
    rfl
  · rename_i hlisted
    rw [← error?_eq_some_iff, error?_compile] at h
    obtain ⟨demand, -, hcheck⟩ := List.exists_of_findSome?_eq_some h
    obtain ⟨hunmet, rfl⟩ := Demand.check_eq_some_iff.1 hcheck
    cases demand with
    | listed => exact absurd (Option.ne_none_iff_exists'.1 hlisted) hunmet
    | control param value =>
      rw [Demand.fault, Control.fault]
      split <;> rfl
    | declared path => rfl
    | typed token =>
      rw [Demand.fault]
      split <;> rfl

end Query

/-! ## Plans that are run -/

namespace Store

variable {store : Store} {plan : Plan}

/-- Attaching documents to those of a page makes them no more and no fewer. -/
theorem length_attach (store : Store) (plan : Plan) (documents : List Json) :
    (store.attach plan documents).length = documents.length := by
  rw [attach]
  split
  · rfl
  · exact List.length_map _

/-- The page has the documents that satisfy the plan, but for those that are skipped, up to the limit. -/
theorem length_of_run [PatternEngine] {documents : List Json} (h : store.run plan = .ok documents) :
    documents.length =
      min plan.limit.toNat (((store.documents plan.collection).filter (satisfies plan)).length - plan.skip.toNat) := by
  obtain ⟨stored, conditions, hfind, hconditions, rfl⟩ := exists_eq_of_run h
  rw [length_attach, page, List.length_take, List.length_drop, (select_perm hconditions stored).length_eq,
    List.length_map, Store.documents, hfind]
  rfl

end Store

namespace Service

variable {catalog : Catalog} {store : Store} {name : String} {params : List (String × String)}

/-! ## Replies -/

/-- A request that is compiled is told before what becomes of it, and its plan is the one that the store is asked to run. -/
theorem queryCollection_of_ok {plan : Plan} (hplan : compile catalog name params = .ok plan) (backend : Backend)
    (elapsed : Nat) :
    let result := queryCollection catalog backend elapsed name params
    result.plan = some plan ∧ ∃ entry, result.log.map Log.Entry.event = [.queryPlanned, entry] ∧
      ((∃ documents, backend.run plan = .ok documents ∧ entry = .queryExecuted ∧
          result.reply = .json 200 ((Outcome.mk documents elapsed).response plan.collection plan.timing).body) ∨
        ∃ e, backend.run plan = .error e ∧ entry = .queryRejected ∧ result.reply = .failure e.message e.status) := by
  rw [queryCollection, hplan]
  dsimp only
  cases hrun : backend.run plan with
  | ok documents => exact ⟨rfl, _, rfl, .inl ⟨documents, rfl, rfl, rfl⟩⟩
  | error e => exact ⟨rfl, _, rfl, .inr ⟨e, rfl, rfl, rfl⟩⟩

/-- What is answered to a request, what is told of it and whether the store was asked, if the request is not compiled: this
does not depend on the store. -/
theorem queryCollection_of_error {e : QueryError} (he : compile catalog name params = .error e) (backend : Backend)
    (elapsed : Nat) :
    queryCollection catalog backend elapsed name params =
      ⟨.failure e.message e.status, [⟨.warn, .queryRejected, [("collection", name), ("error", e.message)]⟩], none⟩ := by
  rw [queryCollection, he]

/-- A plan that is not run is never told with the status of a page. -/
theorem status_failure_ne (e : StoreError) : (Reply.failure e.message e.status).status ≠ 200 := by
  cases e <;> simp [Reply.failure, Reply.json, StoreError.status]

/-- A request that is not compiled is never told with the status of a page. -/
theorem status_refusal_ne (e : QueryError) : (Reply.failure e.message e.status).status ≠ 200 := by
  cases e <;> simp [Reply.failure, Reply.json, QueryError.status]

/-- The member of a list is none of the other members of a body. -/
theorem listName_ne (collection : String) : collection ++ "_list" ≠ "returned" ∧ collection ++ "_list" ≠ "timing" := by
  have hlast : (collection ++ "_list").toList.getLast? = some 't' := by
    rw [String.toList_append, List.getLast?_append]
    rfl
  constructor <;>
  · intro h
    rw [h] at hlast
    exact absurd hlast (by decide)

/-- A number of documents that stays below the largest page is a value. -/
theorem ofNat_eq {n : Nat} (h : n ≤ 10000) : ∃ fits, Json.ofNat n = .num (.int n fits) := by
  have hfits : FitsInteger n := by
    rw [FitsInteger]
    omega
  refine ⟨hfits, ?_⟩
  rw [Json.ofNat, Json.ofInt?, dif_pos hfits]
  rfl

/-- The members of a body have different names. -/
theorem nodup_memberNames (collection : String) : [collection ++ "_list", "returned", "timing"].Nodup := by
  obtain ⟨hreturned, htiming⟩ := listName_ne collection
  rw [List.nodup_cons, List.nodup_cons, List.mem_cons, List.mem_singleton, List.mem_singleton, not_or]
  exact ⟨⟨hreturned, htiming⟩, by decide, List.nodup_singleton _⟩

section Stores

variable [PatternEngine]

/-! ## Endings -/

/-- Which status a request ends with, by the first hand that ends it. -/
inductive Ends (catalog : Catalog) (store : Store) (name : String) (params : List (String × String)) : Nat → Prop where
  | unlisted (unlisted : catalog.find? name = none) : Ends catalog store name params 404
  | refused {e : QueryError} (listed : catalog.find? name ≠ none) (refused : compile catalog name params = .error e) :
    Ends catalog store name params 400
  | unbuilt {plan : Plan} (compiled : compile catalog name params = .ok plan) (unbuilt : store.find? name = none) :
    Ends catalog store name params 503
  | unreadable {plan : Plan} {fault : PatternFault} (compiled : compile catalog name params = .ok plan)
    (built : store.find? name ≠ none) (unsupported : plan.HasUnsupported fault) : Ends catalog store name params 400
  | served {plan : Plan} {documents : List Json} (compiled : compile catalog name params = .ok plan)
    (built : store.find? name ≠ none) (supported : ∀ fault, ¬ plan.HasUnsupported fault)
    (answer : store.run plan = .ok documents) : Ends catalog store name params 200

namespace Ends

variable {status : Nat}

/-- A collection is not found exactly if the catalog does not have it. -/
theorem notFound_iff (h : Ends catalog store name params status) : status = 404 ↔ catalog.find? name = none := by
  cases h with
  | unlisted unlisted => exact iff_of_true rfl unlisted
  | refused listed _ => exact iff_of_false (by decide) listed
  | unbuilt compiled _ => exact iff_of_false (by decide) (listed_of_compile compiled)
  | unreadable compiled _ _ => exact iff_of_false (by decide) (listed_of_compile compiled)
  | served compiled _ _ _ => exact iff_of_false (by decide) (listed_of_compile compiled)

/-- A collection is not available exactly if nothing was at fault before it was looked for. -/
theorem unavailable_iff (h : Ends catalog store name params status) :
    status = 503 ↔ (∃ plan, compile catalog name params = .ok plan) ∧ store.find? name = none := by
  cases h with
  | unlisted unlisted =>
    rw [compile_of_unlisted unlisted]
    exact iff_of_false (by decide) fun ⟨⟨_, hplan⟩, _⟩ => nomatch hplan
  | refused _ refused =>
    rw [refused]
    exact iff_of_false (by decide) fun ⟨⟨_, hplan⟩, _⟩ => nomatch hplan
  | unbuilt compiled unbuilt => exact iff_of_true rfl ⟨⟨_, compiled⟩, unbuilt⟩
  | unreadable _ built _ => exact iff_of_false (by decide) fun ⟨_, hfind⟩ => built hfind
  | served _ built _ _ => exact iff_of_false (by decide) fun ⟨_, hfind⟩ => built hfind

/-- A request is at fault exactly if it is not compiled though its collection is in the catalog, or if it is and the
collection is there, but not all of its patterns can be read. -/
theorem refused_iff (h : Ends catalog store name params status) :
    status = 400 ↔
      (catalog.find? name ≠ none ∧ ∃ e, compile catalog name params = .error e) ∨
        ∃ plan fault, compile catalog name params = .ok plan ∧ store.find? name ≠ none ∧
          plan.HasUnsupported fault := by
  cases h with
  | unlisted unlisted =>
    rw [compile_of_unlisted unlisted]
    refine iff_of_false (by decide) ?_
    rintro (⟨listed, -⟩ | ⟨_, _, hplan, -⟩)
    · exact listed unlisted
    · nomatch hplan
  | refused listed refused => exact iff_of_true rfl (.inl ⟨listed, _, refused⟩)
  | unbuilt compiled unbuilt =>
    rw [compiled]
    refine iff_of_false (by decide) ?_
    rintro (⟨-, _, he⟩ | ⟨_, _, -, built, -⟩)
    · nomatch he
    · exact built unbuilt
  | unreadable compiled built unsupported => exact iff_of_true rfl (.inr ⟨_, _, compiled, built, unsupported⟩)
  | served compiled built supported _ =>
    rw [compiled]
    refine iff_of_false (by decide) ?_
    rintro (⟨-, _, he⟩ | ⟨plan, fault, hplan, -, unsupported⟩)
    · nomatch he
    · obtain rfl := Except.ok.inj hplan
      exact supported fault unsupported

/-- A request is served exactly if it is compiled, its collection is there and all of its patterns can be read. -/
theorem served_iff (h : Ends catalog store name params status) :
    status = 200 ↔ ∃ plan, compile catalog name params = .ok plan ∧ store.find? name ≠ none ∧
      ∀ fault, ¬ plan.HasUnsupported fault := by
  cases h with
  | unlisted unlisted =>
    rw [compile_of_unlisted unlisted]
    exact iff_of_false (by decide) fun ⟨_, hplan, _⟩ => nomatch hplan
  | refused _ refused =>
    rw [refused]
    exact iff_of_false (by decide) fun ⟨_, hplan, _⟩ => nomatch hplan
  | unbuilt _ unbuilt => exact iff_of_false (by decide) fun ⟨_, _, hfind, _⟩ => hfind unbuilt
  | unreadable compiled _ unsupported =>
    rw [compiled]
    refine iff_of_false (by decide) ?_
    rintro ⟨plan, hplan, -, supported⟩
    obtain rfl := Except.ok.inj hplan
    exact supported _ unsupported
  | served compiled built supported _ => exact iff_of_true rfl ⟨_, compiled, built, supported⟩

/-- A request ends in one of four ways. -/
theorem mem_statuses (h : Ends catalog store name params status) : status ∈ [200, 400, 404, 503] := by
  cases h <;> decide

end Ends

/-- Every request ends, and its status says how. -/
theorem ends (catalog : Catalog) (store : Store) (elapsed : Nat) (name : String) (params : List (String × String)) :
    Ends catalog store name params (queryCollection catalog (.ofStore store) elapsed name params).reply.status := by
  rw [queryCollection]
  cases hplan : compile catalog name params with
  | error e =>
    show Ends catalog store name params e.status
    rw [status_of_compile hplan]
    split
    · rename_i hunlisted
      exact .unlisted hunlisted
    · rename_i hlisted
      exact .refused hlisted hplan
  | ok plan =>
    -- The store looks for the collection before it reads the patterns.
    have hname := collection_of_compile hplan
    dsimp only [Backend.ofStore]
    cases hfind : store.find? name with
    | none =>
      rw [Store.run, hname, hfind]
      exact .unbuilt hplan hfind
    | some stored =>
      have hbuilt : store.find? name ≠ none := by simp [hfind]
      have hfound : store.find? plan.collection = some stored := hname ▸ hfind
      cases hconditions : Store.Condition.ofClauses plan.filters with
      | error e =>
        obtain ⟨fault, rfl, hunsupported⟩ := Store.hasUnsupported_of_ofClauses hconditions
        rw [Store.run_eq_error hfound hconditions]
        exact .unreadable hplan hbuilt hunsupported
      | ok conditions =>
        have hrun := Store.run_eq plan hfound hconditions
        rw [hrun]
        refine .served hplan hbuilt (fun fault hunsupported => ?_) hrun
        obtain ⟨e, he⟩ := Store.exists_error_of_hasUnsupported hunsupported
        cases hconditions.symm.trans he

/-! ## Pages -/

/-- Whether a reply is a page of documents: the documents that satisfy the plan, but for those that the request asks to be left
out, up to the limit that it asks for, with their number, and with the time if it is asked for. -/
structure IsPage (store : Store) (plan : Plan) (params : List (String × String)) (reply : Reply) (documents : List Json)
    (members : Members Json) : Prop where
  found : store.run plan = .ok documents
  body : reply = .json 200 (.obj members)
  /-- The text of the body is read as these members, if each of them can be read back. -/
  reading : (∀ member ∈ members, Json.Legible 126 member.2) → Json.read? reply.body = some (.obj members)
  list : Members.get? (plan.collection ++ "_list") members = some (.arr documents)
  size : ∃ start limit, AsksStart params start ∧ AsksLimit params limit ∧
    documents.length = min limit (((store.documents plan.collection).filter (Store.satisfies plan)).length - start)
  returned : ∃ fits, Members.get? "returned" members = some (.num (.int documents.length fits))
  timing : ∃ told, AsksTiming params told ∧ (Members.get? "timing" members).isSome = told

/-- The body of an answer has the list, the number of its documents, and the time if it is told. -/
theorem isPage_of_run {plan : Plan} {documents : List Json} (hplan : compile catalog name params = .ok plan)
    (h : store.run plan = .ok documents) (elapsed : Nat) :
    ∃ members, IsPage store plan params
      (.json 200 ((Outcome.mk documents elapsed).response plan.collection plan.timing).body) documents members := by
  obtain ⟨hstart, hlimit, htold⟩ := asks_of_compile hplan
  obtain ⟨hreturned, htiming⟩ := listName_ne plan.collection
  have hlength := Store.length_of_run h
  have hsmall : documents.length ≤ 10000 := by
    have hlargest := UInt64.le_iff_toNat_le.1 (limit_of_compile hplan).2
    rw [hlength]
    exact (Nat.min_le_left _ _).trans hlargest
  obtain ⟨fits, hcount⟩ := ofNat_eq hsmall
  refine ⟨_, h, rfl, fun hlegible => ?_, if_pos rfl, ⟨_, _, hstart, hlimit, hlength⟩, ⟨fits, ?_⟩, ⟨_, htold, ?_⟩⟩
  · refine (Json.Legible.obj ?_ hlegible).read?_compact_self
    have hnames := nodup_memberNames plan.collection
    cases htimed : plan.timing with
    | true => exact hnames
    | false => exact hnames.sublist (by simp [Outcome.response, Response.listName])
  · exact (if_neg hreturned).trans ((if_pos rfl).trans (congrArg some hcount))
  · refine (congrArg Option.isSome ((if_neg htiming).trans (if_neg (by decide)))).trans ?_
    dsimp only [Outcome.response]
    cases plan.timing <;> rfl

/-! ## Answers -/

/-- What is answered to a request, what is told of it, and whether the store was asked. -/
structure Answered (catalog : Catalog) (store : Store) (elapsed : Nat) (name : String) (params : List (String × String))
    (result : QueryResult) : Prop where
  notFound : result.reply.status = 404 ↔ catalog.find? name = none
  unavailable : result.reply.status = 503 ↔
    (∃ plan, compile catalog name params = .ok plan) ∧ store.find? name = none
  refused : result.reply.status = 400 ↔
    (catalog.find? name ≠ none ∧ ∃ e, compile catalog name params = .error e) ∨
      ∃ plan fault, compile catalog name params = .ok plan ∧ store.find? name ≠ none ∧ plan.HasUnsupported fault
  served : result.reply.status = 200 ↔
    ∃ plan, compile catalog name params = .ok plan ∧ store.find? name ≠ none ∧ ∀ fault, ¬ plan.HasUnsupported fault
  statuses : result.reply.status ∈ [200, 400, 404, 503]
  page : ∀ plan, compile catalog name params = .ok plan → result.reply.status = 200 →
    plan.collection = name ∧ ∃ documents members, IsPage store plan params result.reply documents members
  failure : (∀ e, compile catalog name params = .error e → result.reply = .failure e.message e.status) ∧
    ∀ plan e, compile catalog name params = .ok plan → store.run plan = .error e →
      result.reply = .failure e.message e.status
  log : result.log.map Log.Entry.event =
    (if (compile catalog name params).isOk then [Log.Event.queryPlanned] else []) ++
      [if result.reply.status = 200 then Log.Event.queryExecuted else Log.Event.queryRejected]
  asked : result.plan = (compile catalog name params).toOption
  unasked : (compile catalog name params).isOk = false →
    ∀ backend elapsed', queryCollection catalog backend elapsed' name params = result

/-- Every request to a store in memory is answered so: its status says which hand ended it, a page has as many documents as
the request asks for and the store has, a failure is told with its reason, and the log tells whether the request was planned
and whether it was executed. -/
theorem answered (catalog : Catalog) (store : Store) (elapsed : Nat) (name : String) (params : List (String × String)) :
    Answered catalog store elapsed name params (queryCollection catalog (.ofStore store) elapsed name params) := by
  have hends := ends catalog store elapsed name params
  refine ⟨hends.notFound_iff, hends.unavailable_iff, hends.refused_iff, hends.served_iff, hends.mem_statuses, ?_, ⟨?_, ?_⟩,
    ?_, ?_, ?_⟩
  · intro plan hplan hstatus
    refine ⟨collection_of_compile hplan, ?_⟩
    obtain ⟨-, _, -, ⟨documents, hrun, -, hreply⟩ | ⟨e, -, -, hreply⟩⟩ :=
      queryCollection_of_ok hplan (.ofStore store) elapsed
    · rw [hreply]
      exact ⟨documents, isPage_of_run hplan hrun elapsed⟩
    · rw [hreply] at hstatus
      exact absurd hstatus (status_failure_ne e)
  · intro e he
    rw [queryCollection_of_error he]
  · intro plan e hplan he
    obtain ⟨-, _, -, ⟨_, hrun, -, -⟩ | ⟨_, hrun, -, hreply⟩⟩ := queryCollection_of_ok hplan (.ofStore store) elapsed
    · nomatch hrun.symm.trans he
    · rw [hreply, Except.error.inj (hrun.symm.trans he)]
  · cases hplan : compile catalog name params with
    | error e =>
      rw [queryCollection_of_error hplan, if_neg (status_refusal_ne e)]
      rfl
    | ok plan =>
      obtain ⟨-, _, hlog, ⟨documents, -, rfl, hreply⟩ | ⟨e, -, rfl, hreply⟩⟩ :=
        queryCollection_of_ok hplan (.ofStore store) elapsed
      · rw [hlog, hreply]
        rfl
      · rw [hlog, hreply, if_neg (status_failure_ne e)]
        rfl
  · cases hplan : compile catalog name params with
    | error e => rw [queryCollection_of_error hplan]; rfl
    | ok plan => exact (queryCollection_of_ok hplan (.ofStore store) elapsed).1
  · cases hplan : compile catalog name params with
    | error e =>
      intro _ backend elapsed'
      rw [queryCollection_of_error hplan, queryCollection_of_error hplan]
    | ok plan => exact fun h => nomatch h

end Stores

/-- Each way in which requests about three worlds end. Of two values of the limit the last one counts, and behind the first
document there are two. -/
theorem answered_worlds :
    let answer := queryCollection Catalog.builtin (.ofStore Store.worlds) 1500000
    let paging := [("c:limit", "1"), ("c:start", "1"), ("c:limit", " +5"), ("c:timing", "")]
    (answer "continent" []).reply.status = 404 ∧ (answer "world" [("c:limit", "0")]).reply.status = 400 ∧
    (answer "world" [("name", "*(")]).reply.status = 400 ∧ (answer "faction" []).reply.status = 503 ∧
    ∃ plan documents members, compile Catalog.builtin "world" paging = .ok plan ∧
      IsPage Store.worlds plan paging (answer "world" paging).reply documents members ∧ documents.length = 2 := by
  intro answer paging
  have hanswered := answered Catalog.builtin Store.worlds 1500000
  have hlisted : Catalog.builtin.find? "world" ≠ none := by decide
  have hbuilt : Store.worlds.find? "world" ≠ none := by decide
  refine ⟨?unlisted, ?refused, ?unreadable, ?unbuilt, ?served⟩
  case unlisted => exact (hanswered "continent" []).notFound.2 rfl
  case refused => exact (hanswered "world" [("c:limit", "0")]).refused.2 (.inl ⟨hlisted, _, rfl⟩)
  case unreadable =>
    have hread : PatternEngine.read "(" = .error "<reason>" := rfl
    exact (hanswered "world" [("name", "*(")]).refused.2
      (.inr ⟨_, ⟨"(", "<reason>"⟩, rfl, hbuilt, _, List.mem_cons_self, rfl, rfl, hread⟩)
  case unbuilt => exact (hanswered "faction" []).unavailable.2 ⟨⟨_, rfl⟩, rfl⟩
  case served =>
    let plan : Plan := ⟨"world", [], [], ⟨[], []⟩, [], 1, 5, none, true⟩
    have hplan : compile Catalog.builtin "world" paging = .ok plan := rfl
    have hserved := (hanswered "world" paging).served.2
      ⟨plan, hplan, hbuilt, fun fault ⟨clause, hclause, _⟩ => nomatch hclause⟩
    obtain ⟨-, documents, members, hpage⟩ := (hanswered "world" paging).page plan hplan hserved
    have hrun : Store.worlds.run plan =
        .ok [.obj [("world_id", .ofNat 10)], .obj [("world_id", .ofNat 40), ("name", .str "SolTech")]] := rfl
    refine ⟨plan, documents, members, hplan, hpage, ?_⟩
    rw [← Except.ok.inj (hrun.symm.trans hpage.found)]
    rfl

end Service

end SheetQuery
