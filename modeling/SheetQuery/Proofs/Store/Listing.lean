import Mathlib.Data.List.Induction
import SheetQuery.Pattern.Engine
import SheetQuery.Proofs.Json.Members
import SheetQuery.Store.Listing

/-!
# How old a listing is

A listing that is kept may be behind its store, but never by as much as the window, and never behind what was to be forgotten.
So what is answered can be told from what has happened before, without the entry of the cache. The last report that came from
the store stands until it is as old as the window or the cache is invalidated (`Stands`). While a report stands it is answered
and the store is not asked; otherwise the store is asked once, and what it says is answered (`bounded_of_history`).
-/

namespace SheetQuery

open Query

namespace Store

/-! ## Listings of a store -/

/-- Whether a listing has the names of all collections of a store, in ascending order, with the numbers of their documents. -/
def ListedBy (store : Store) (listing : List Datatype) : Prop :=
  (listing.Pairwise fun a b => compareText a.name b.name = .lt) ∧
    ∀ datatype, datatype ∈ listing ↔
      ∃ documents, store.find? datatype.name = some documents ∧ documents.length = datatype.count

/-- No collection is in a store twice. -/
theorem nodup_keys_collections (store : Store) : (Members.keys store.collections).Nodup := by
  refine List.pairwise_map.2 (store.sorted.imp fun {a b} hlt heq => ?_)
  rw [heq, compareText_self] at hlt
  nomatch hlt

/-- A store lists its collections. -/
theorem listedBy_listing (store : Store) : store.ListedBy store.listing := by
  refine ⟨List.pairwise_map.2 store.sorted, fun datatype => ?_⟩
  rw [listing, List.mem_map]
  constructor
  · rintro ⟨⟨name, documents⟩, hmem, rfl⟩
    exact ⟨documents, (Members.get?_eq_some_iff store.nodup_keys_collections).2 hmem, rfl⟩
  · rintro ⟨documents, hfind, hcount⟩
    exact ⟨(datatype.name, documents), Members.mem_of_get? hfind, congrArg (Datatype.mk datatype.name) hcount⟩

end Store

namespace ListingCache

/-! ## Asking the store -/

/-- What a store says when it is asked for its listing. -/
abbrev Report := Except StoreError (List Datatype)

/-- The listing when asking the store is an act, which is done only where it has to be. -/
def getAsking {m : Type → Type} [Monad m] (ask : m Report) (cache : ListingCache) (now : Nat) :
    m (Report × ListingCache) :=
  match cache.fresh? now with
  | some listing => pure (.ok listing, cache)
  | none => do
    match ← ask with
    | .ok listing => pure (.ok listing, { cache with entry := some (now, listing) })
    | .error error => pure (.error error, cache)

/-- Asking a store with each of its reports written down. -/
def recording (backend : Backend) : StateM (List Report) Report :=
  fun reports => (backend.listing, reports ++ [backend.listing])

/-- What the store says while a listing is looked up. -/
def reports (cache : ListingCache) (now : Nat) (backend : Backend) : List Report :=
  (getAsking (recording backend) cache now []).2

variable {cache : ListingCache} {now : Nat} {backend : Backend}

/-- Asking a store changes nothing but that it has been asked. -/
theorem getAsking_pure {m : Type → Type} [Monad m] [LawfulMonad m] :
    getAsking (pure backend.listing : m Report) cache now = pure (cache.get now backend) := by
  rw [getAsking, get]
  cases cache.fresh? now with
  | some listing => rfl
  | none =>
    simp only [pure_bind]
    cases backend.listing <;> rfl

/-- That the reports are written down changes nothing of what is answered or kept. -/
theorem getAsking_recording : (getAsking (recording backend) cache now []).1 = cache.get now backend := by
  rw [getAsking, get]
  cases cache.fresh? now with
  | some listing => rfl
  | none =>
    simp only [bind, StateT.bind, recording]
    cases backend.listing <;> rfl

/-- A fresh entry is answered and kept, whatever the store would say, and the store is not asked. -/
theorem get_of_fresh (backend : Backend) {listing : List Datatype} (h : cache.fresh? now = some listing) :
    cache.get now backend = (.ok listing, cache) ∧ cache.reports now backend = [] := by
  rw [get, reports, getAsking, h]
  exact ⟨rfl, rfl⟩

/-- Without a fresh entry the store is asked once, and a listing that it reports becomes the entry. -/
theorem get_of_stale (backend : Backend) (h : cache.fresh? now = none) :
    cache.reports now backend = [backend.listing] ∧
      match backend.listing with
      | .ok listing => cache.get now backend = (.ok listing, { cache with entry := some (now, listing) })
      | .error error => cache.get now backend = (.error error, cache) := by
  rw [get, reports, getAsking, h]
  simp only [bind, StateT.bind, recording]
  cases backend.listing <;> exact ⟨rfl, rfl⟩

/-- A number of collections is that of the listing. -/
theorem count_eq : cache.count now backend = ((cache.get now backend).1.map List.length, (cache.get now backend).2) := by
  rw [count]
  obtain ⟨report, kept⟩ := cache.get now backend
  cases report <;> rfl

/-! ## Runs -/

/-- What can be done with a store and the cache before it. A call may reach a store that fails in the place of this one. -/
inductive Act where
  | insert (name : String) (documents : List Json)
  | advance (time : Nat)
  | invalidate
  | get (failure : Option StoreError)
  | count (failure : Option StoreError)

/-- The failure that a call meets, if this is a call. -/
def Act.call? : Act → Option (Option StoreError)
  | .get failure => some failure
  | .count failure => some failure
  | _ => none

/-- A store, a clock, and the cache before the store. -/
structure Scene where
  store : Store
  now : Nat
  cache : ListingCache

section Scenes

variable [PatternEngine]

/-- What a call reaches. -/
def Scene.reached (scene : Scene) : Option StoreError → Backend
  | none => .ofStore scene.store
  | some error => .failing error

/-- What is answered to an act. -/
inductive Answer where
  | nothing
  | listing (report : Report)
  | count (number : Except StoreError Nat)

/-- One act of a run, with the reports that the store gave upon it. -/
structure Moment where
  before : Scene
  act : Act
  reports : List Report
  answer : Answer
  after : Scene

/-- Does an act. -/
def Scene.perform (scene : Scene) (act : Act) : Moment :=
  match act with
  | .insert name documents => ⟨scene, act, [], .nothing, { scene with store := scene.store.insert name documents }⟩
  | .advance time => ⟨scene, act, [], .nothing, { scene with now := scene.now + time }⟩
  | .invalidate => ⟨scene, act, [], .nothing, { scene with cache := scene.cache.invalidate }⟩
  | .get failure =>
    let (report, cache) := scene.cache.get scene.now (scene.reached failure)
    ⟨scene, act, scene.cache.reports scene.now (scene.reached failure), .listing report, { scene with cache }⟩
  | .count failure =>
    let (number, cache) := scene.cache.count scene.now (scene.reached failure)
    ⟨scene, act, scene.cache.reports scene.now (scene.reached failure), .count number, { scene with cache }⟩

/-- The moments of a run. -/
def Scene.history (scene : Scene) : List Act → List Moment
  | [] => []
  | act :: acts => scene.perform act :: (scene.perform act).after.history acts

namespace Moment

/-- The listing that the store reported, if it was asked and did not fail. -/
def refreshed? (moment : Moment) : Option (List Datatype) :=
  match moment.reports with
  | [.ok listing] => some listing
  | _ => none

/-- The entry that a moment leaves of the one before it. -/
def leave (entry : Option (Nat × List Datatype)) (moment : Moment) : Option (Nat × List Datatype) :=
  match moment.refreshed? with
  | some listing => some (moment.before.now, listing)
  | none =>
    match moment.act with
    | .invalidate => none
    | _ => entry

omit [PatternEngine] in
/-- A moment that neither brings a report nor invalidates anything leaves what there was. -/
theorem leave_of_quiet {moment : Moment} (h : moment.refreshed? = none ∧ moment.act ≠ .invalidate)
    (entry : Option (Nat × List Datatype)) : moment.leave entry = entry := by
  rw [leave, h.1]
  dsimp only
  split
  · rename_i hact
    exact absurd hact h.2
  · rfl

end Moment

/-- What a call does: it looks a listing up, and answers that or its length. -/
theorem perform_of_call (scene : Scene) {act : Act} {failure : Option StoreError} (h : act.call? = some failure) :
    (scene.perform act).reports = scene.cache.reports scene.now (scene.reached failure) ∧
      (scene.perform act).after = { scene with cache := (scene.cache.get scene.now (scene.reached failure)).2 } ∧
      (act = .get failure → (scene.perform act).answer =
        .listing (scene.cache.get scene.now (scene.reached failure)).1) ∧
      (act = .count failure → (scene.perform act).answer =
        .count ((scene.cache.get scene.now (scene.reached failure)).1.map List.length)) := by
  cases act with
  | get other =>
    obtain rfl := Option.some.inj h
    exact ⟨rfl, rfl, fun _ => rfl, fun he => nomatch he⟩
  | count other =>
    obtain rfl := Option.some.inj h
    refine ⟨rfl, ?_, fun he => (nomatch he), fun _ => ?_⟩
    · rw [Scene.perform, count_eq]
    · rw [Scene.perform, count_eq]
  | _ => nomatch h

theorem before_perform (scene : Scene) (act : Act) : (scene.perform act).before = scene := by
  cases act <;> rfl

theorem act_perform (scene : Scene) (act : Act) : (scene.perform act).act = act := by
  cases act <;> rfl

/-- The listing that the store reports in a call, if it is asked and does not fail. -/
theorem refreshed?_of_call (scene : Scene) {act : Act} {failure : Option StoreError} (h : act.call? = some failure) :
    (scene.perform act).refreshed? =
      if (scene.cache.fresh? scene.now).isSome then none else (scene.reached failure).listing.toOption := by
  rw [Moment.refreshed?, (perform_of_call scene h).1]
  cases hfresh : scene.cache.fresh? scene.now with
  | some listing => rw [(get_of_fresh _ hfresh).2]; rfl
  | none =>
    rw [(get_of_stale _ hfresh).1]
    cases (scene.reached failure).listing <;> rfl

/-- A listing that was reported was the store's at the time. -/
theorem listing_of_refreshed? {scene : Scene} {act : Act} {listing : List Datatype}
    (h : (scene.perform act).refreshed? = some listing) : listing = scene.store.listing := by
  cases hcall : act.call? with
  | none =>
    -- Without a call there is no report.
    have hunasked : (scene.perform act).reports = [] := by
      cases act with
      | get failure | count failure => nomatch hcall
      | _ => rfl
    rw [Moment.refreshed?, hunasked] at h
    nomatch h
  | some failure =>
    rw [refreshed?_of_call scene hcall] at h
    split at h
    · nomatch h
    · cases failure with
      | none => exact (Option.some.inj h).symm
      | some error => nomatch h

/-- What an act leaves of the cache. -/
theorem cache_perform (scene : Scene) (act : Act) :
    (scene.perform act).after.cache = { scene.cache with entry := (scene.perform act).leave scene.cache.entry } := by
  cases hcall : act.call? with
  | none =>
    cases act with
    | get failure | count failure => nomatch hcall
    | _ => rfl
  | some failure =>
    have hact : (scene.perform act).act ≠ .invalidate := by
      rw [act_perform]
      rintro rfl
      nomatch hcall
    have hrefreshed := refreshed?_of_call scene hcall
    rw [(perform_of_call scene hcall).2.1]
    cases hfresh : scene.cache.fresh? scene.now with
    | some listing =>
      rw [hfresh] at hrefreshed
      rw [Moment.leave_of_quiet ⟨hrefreshed, hact⟩, (get_of_fresh _ hfresh).1]
    | none =>
      have hget := (get_of_stale (scene.reached failure) hfresh).2
      rw [hfresh] at hrefreshed
      cases hlisting : (scene.reached failure).listing with
      | ok listing =>
        rw [hlisting] at hget hrefreshed
        rw [hget, Moment.leave, hrefreshed, before_perform]
        rfl
      | error error =>
        rw [hlisting] at hget hrefreshed
        rw [hget, Moment.leave_of_quiet ⟨hrefreshed, hact⟩]

/-- The clock is never set back. -/
theorem le_now_perform (scene : Scene) (act : Act) : scene.now ≤ (scene.perform act).after.now := by
  cases act with
  | advance time => exact Nat.le_add_right _ _
  | _ => exact Nat.le_refl _

/-- How things stand at a moment of a run: it is an act done on what there was, at no earlier time than those before it, with
the entry that these have left. -/
theorem moment_of_history {scene : Scene} {acts : List Act} {earlier later : List Moment} {moment : Moment}
    (h : scene.history acts = earlier ++ moment :: later) :
    moment = moment.before.perform moment.act ∧ scene.now ≤ moment.before.now ∧
      (∀ other ∈ earlier, other.before.now ≤ moment.before.now) ∧
      moment.before.cache = { scene.cache with entry := earlier.foldl Moment.leave scene.cache.entry } := by
  induction acts generalizing scene earlier with
  | nil =>
    rw [Scene.history] at h
    exact absurd h.symm (List.append_ne_nil_of_right_ne_nil _ (List.cons_ne_nil _ _))
  | cons act acts ih =>
    rw [Scene.history] at h
    cases earlier with
    | nil =>
      obtain ⟨rfl, -⟩ := List.cons.inj h
      rw [before_perform, act_perform]
      exact ⟨rfl, Nat.le_refl _, fun other hother => (nomatch hother), rfl⟩
    | cons first earlier =>
      obtain ⟨rfl, hrest⟩ := List.cons.inj h
      obtain ⟨hperform, hnow, hearlier, hcache⟩ := ih hrest
      have hbefore := Nat.le_trans (le_now_perform scene act) hnow
      refine ⟨hperform, hbefore, fun other hother => ?_, ?_⟩
      · rcases List.mem_cons.1 hother with rfl | hother
        · rwa [before_perform]
        · exact hearlier other hother
      · rw [hcache, cache_perform]
        rfl

/-! ## Reports that stand -/

/-- Whether the store's report of a listing is the last that came well, with nothing invalidated since. -/
structure LastReport (earlier : List Moment) (listing : List Datatype) (before : List Moment) (refresh : Moment)
    (since : List Moment) : Prop where
  split : earlier = before ++ refresh :: since
  reported : refresh.refreshed? = some listing
  quiet : ∀ moment ∈ since, moment.refreshed? = none ∧ moment.act ≠ .invalidate

/-- Whether a report stands at a time: it is the last one, and was given less than the window ago. -/
def Stands (window : Nat) (earlier : List Moment) (now : Nat) (listing : List Datatype) : Prop :=
  ∃ before refresh since, LastReport earlier listing before refresh since ∧
    refresh.before.now ≤ now ∧ now < refresh.before.now + window

omit [PatternEngine] in
/-- The entry that moments leave is the last report, with its time. -/
theorem foldl_leave_eq_some_iff {earlier : List Moment} {seen : Nat} {listing : List Datatype} :
    earlier.foldl Moment.leave none = some (seen, listing) ↔
      ∃ before refresh since, LastReport earlier listing before refresh since ∧ refresh.before.now = seen := by
  constructor
  · intro h
    induction earlier using List.reverseRecOn with
    | nil => nomatch h
    | append_singleton earlier last ih =>
      rw [List.foldl_append, List.foldl_cons, List.foldl_nil] at h
      by_cases hquiet : last.refreshed? = none ∧ last.act ≠ .invalidate
      · rw [Moment.leave_of_quiet hquiet] at h
        obtain ⟨before, refresh, since, ⟨rfl, hreported, hsince⟩, hseen⟩ := ih h
        refine ⟨before, refresh, since ++ [last], ⟨by simp, hreported, fun moment hmoment => ?_⟩, hseen⟩
        rcases List.mem_append.1 hmoment with hmoment | hmoment
        · exact hsince moment hmoment
        · rwa [List.mem_singleton.1 hmoment]
      · rw [Moment.leave] at h
        cases hrefreshed : last.refreshed? with
        | none =>
          have hact : last.act = .invalidate := by
            by_contra hact
            exact hquiet ⟨hrefreshed, hact⟩
          rw [hrefreshed, hact] at h
          nomatch h
        | some reported =>
          rw [hrefreshed] at h
          obtain ⟨rfl, rfl⟩ := Prod.mk.inj (Option.some.inj h)
          exact ⟨earlier, last, [], ⟨rfl, hrefreshed, fun moment hmoment => nomatch hmoment⟩, rfl⟩
  · rintro ⟨before, refresh, since, ⟨rfl, hreported, hsince⟩, rfl⟩
    have hkept : ∀ entry, since.foldl Moment.leave entry = entry := fun entry =>
      List.foldlRecOn (motive := fun left => left = entry) since Moment.leave rfl
        fun left hleft moment hmoment => by rw [Moment.leave_of_quiet (hsince moment hmoment), hleft]
    rw [List.foldl_append, List.foldl_cons, hkept, Moment.leave, hreported]

omit [PatternEngine] in
/-- An entry is fresh if it is younger than the window. -/
theorem fresh?_eq_some_iff {listing : List Datatype} :
    cache.fresh? now = some listing ↔ ∃ seen, cache.entry = some (seen, listing) ∧ now - seen < cache.window := by
  rw [fresh?, Option.bind_eq_some_iff]
  constructor
  · rintro ⟨⟨seen, kept⟩, hentry, hkept⟩
    dsimp only at hkept
    split at hkept
    · rename_i hage
      obtain rfl := Option.some.inj hkept
      exact ⟨seen, hentry, hage⟩
    · nomatch hkept
  · rintro ⟨seen, hentry, hage⟩
    exact ⟨(seen, listing), hentry, if_pos hage⟩

/-- In a run that begins without an entry, the entry is fresh exactly when a report stands. -/
theorem fresh?_iff_stands {window start : Nat} {store : Store} {acts : List Act} {earlier later : List Moment}
    {moment : Moment} (h : Scene.history ⟨store, start, .empty window⟩ acts = earlier ++ moment :: later)
    {listing : List Datatype} :
    moment.before.cache.fresh? moment.before.now = some listing ↔ Stands window earlier moment.before.now listing := by
  obtain ⟨-, -, hearlier, hcache⟩ := moment_of_history h
  have hentry : moment.before.cache.entry = earlier.foldl Moment.leave none := by rw [hcache]; rfl
  have hwindow : moment.before.cache.window = window := by rw [hcache]; rfl
  rw [fresh?_eq_some_iff, hentry, hwindow]
  simp only [foldl_leave_eq_some_iff]
  constructor
  · rintro ⟨_, ⟨before, refresh, since, hlast, rfl⟩, hage⟩
    have hle := hearlier refresh (by simp [hlast.split])
    exact ⟨before, refresh, since, hlast, hle, by omega⟩
  · rintro ⟨before, refresh, since, hlast, hle, hage⟩
    exact ⟨_, ⟨before, refresh, since, hlast, rfl⟩, by omega⟩

/-! ## What is answered -/

/-- What it gives to look the listing up at a moment. -/
def Moment.report (moment : Moment) (failure : Option StoreError) : Report :=
  (moment.before.cache.get moment.before.now (moment.before.reached failure)).1

section Calls

variable {window start : Nat} {store : Store} {acts : List Act} {earlier later : List Moment} {moment : Moment}
  {failure : Option StoreError} {listing : List Datatype}

/-- A report that stands is answered without asking the store. -/
theorem report_of_stands (h : Scene.history ⟨store, start, .empty window⟩ acts = earlier ++ moment :: later)
    (hcall : moment.act.call? = some failure) (hstands : Stands window earlier moment.before.now listing) :
    moment.reports = [] ∧ moment.report failure = .ok listing ∧ moment.after = moment.before := by
  obtain ⟨hreports, hafter, -⟩ := perform_of_call moment.before hcall
  rw [← (moment_of_history h).1] at hreports hafter
  obtain ⟨hget, hunasked⟩ := get_of_fresh (moment.before.reached failure) ((fresh?_iff_stands h).2 hstands)
  rw [hreports, hunasked, hafter, Moment.report, hget]
  exact ⟨rfl, rfl, rfl⟩

/-- When no report stands, what is answered is what the store says now. -/
theorem report_of_not_stands (h : Scene.history ⟨store, start, .empty window⟩ acts = earlier ++ moment :: later)
    (hcall : moment.act.call? = some failure) (hnone : ¬∃ listing, Stands window earlier moment.before.now listing) :
    moment.reports = [moment.report failure] ∧ moment.report failure = (moment.before.reached failure).listing ∧
      ∀ error, failure = some error → moment.report failure = .error error ∧ moment.after = moment.before := by
  obtain ⟨hreports, hafter, -⟩ := perform_of_call moment.before hcall
  rw [← (moment_of_history h).1] at hreports hafter
  have hstale : moment.before.cache.fresh? moment.before.now = none := by
    refine Option.eq_none_iff_forall_ne_some.2 fun listing hfresh => hnone ⟨listing, (fresh?_iff_stands h).1 hfresh⟩
  obtain ⟨hasked, hget⟩ := get_of_stale (moment.before.reached failure) hstale
  cases hlisting : (moment.before.reached failure).listing with
  | ok listing =>
    rw [hlisting] at hget hasked
    rw [hreports, hasked, Moment.report, hget]
    refine ⟨rfl, rfl, fun error herror => ?_⟩
    rw [herror] at hlisting
    nomatch hlisting
  | error error =>
    rw [hlisting] at hget hasked
    rw [hreports, hasked, hafter, Moment.report, hget]
    refine ⟨rfl, rfl, fun other hother => ?_⟩
    rw [hother] at hlisting
    exact ⟨hlisting.symm, rfl⟩

/-- A report that was written down in a run tells the collections that were in the store at the time. -/
theorem listedBy_of_refreshed? (h : Scene.history ⟨store, start, .empty window⟩ acts = earlier ++ moment :: later)
    (hreported : moment.refreshed? = some listing) : moment.before.store.ListedBy listing := by
  rw [(moment_of_history h).1] at hreported
  rw [listing_of_refreshed? hreported]
  exact Store.listedBy_listing _

/-- A listing that is answered is the last report, of this call or still young. -/
theorem exists_lastReport (h : Scene.history ⟨store, start, .empty window⟩ acts = earlier ++ moment :: later)
    (hcall : moment.act.call? = some failure) (hlisting : moment.report failure = .ok listing) :
    ∃ before refresh since, LastReport (earlier ++ [moment]) listing before refresh since ∧
      refresh.before.store.ListedBy listing ∧
      (refresh = moment ∧ since = [] ∨
        refresh.before.now ≤ moment.before.now ∧ moment.before.now < refresh.before.now + window) := by
  by_cases hstands : ∃ listing, Stands window earlier moment.before.now listing
  · obtain ⟨kept, hstands⟩ := hstands
    obtain ⟨hunasked, hkept, -⟩ := report_of_stands h hcall hstands
    obtain rfl := Except.ok.inj (hkept.symm.trans hlisting)
    obtain ⟨before, refresh, since, ⟨rfl, hreported, hquiet⟩, hage⟩ := hstands
    have hmoment : moment.refreshed? = none ∧ moment.act ≠ .invalidate := by
      refine ⟨by rw [Moment.refreshed?, hunasked], fun hact => ?_⟩
      rw [hact] at hcall
      nomatch hcall
    refine ⟨before, refresh, since ++ [moment], ⟨by simp, hreported, fun other hother => ?_⟩, ?_, .inr hage⟩
    · rcases List.mem_append.1 hother with hother | hother
      · exact hquiet other hother
      · rwa [List.mem_singleton.1 hother]
    · rw [List.append_assoc, List.cons_append] at h
      exact listedBy_of_refreshed? h hreported
  · have hreported : moment.refreshed? = some listing := by
      rw [Moment.refreshed?, (report_of_not_stands h hcall hstands).1, hlisting]
    exact ⟨earlier, moment, [], ⟨rfl, hreported, fun other hother => nomatch hother⟩,
      listedBy_of_refreshed? h hreported, .inl ⟨rfl, rfl⟩⟩

end Calls

/-- What is known of a call from what has happened before it. -/
structure Bounded (window : Nat) (earlier : List Moment) (moment : Moment) (failure : Option StoreError) : Prop where
  /-- The answer is what it gives to look the listing up, or, to those who ask how many collections there are, its length. -/
  answer : moment.act = .get failure ∧ moment.answer = .listing (moment.report failure) ∨
    moment.act = .count failure ∧ moment.answer = .count ((moment.report failure).map List.length)
  /-- A listing is the one that was reported last, in this call or less than the window ago, with nothing invalidated since. It
  has the collections that were in the store then. -/
  listing : ∀ listing, moment.report failure = .ok listing → ∃ before refresh since,
    LastReport (earlier ++ [moment]) listing before refresh since ∧ refresh.before.store.ListedBy listing ∧
      (refresh = moment ∧ since = [] ∨
        refresh.before.now ≤ moment.before.now ∧ moment.before.now < refresh.before.now + window)
  /-- While a report stands it is answered, whether or not a store would fail now, and no store is asked. -/
  standing : ∀ listing, Stands window earlier moment.before.now listing →
    moment.reports = [] ∧ moment.report failure = .ok listing ∧ moment.after = moment.before
  /-- When none stands, the store is asked once and what it says is answered. If it fails, everything is left as it was. -/
  fallen : (¬∃ listing, Stands window earlier moment.before.now listing) →
    moment.reports = [moment.report failure] ∧ moment.report failure = (moment.before.reached failure).listing ∧
      ∀ error, failure = some error → moment.report failure = .error error ∧ moment.after = moment.before
  /-- With a window of no length the store is asked in every call. -/
  windowless : window = 0 → moment.reports = [moment.report failure]

/-- Every call of a run is answered from what has happened before it, whatever is put into the store, however much time goes by,
and whichever calls meet a store that fails. -/
theorem bounded_of_history (window start : Nat) (store : Store) (acts : List Act) {earlier later : List Moment}
    {moment : Moment} {failure : Option StoreError}
    (h : Scene.history ⟨store, start, .empty window⟩ acts = earlier ++ moment :: later)
    (hcall : moment.act.call? = some failure) : Bounded window earlier moment failure := by
  constructor
  case answer =>
    obtain ⟨-, -, hget, hcount⟩ := perform_of_call moment.before hcall
    rw [← (moment_of_history h).1] at hget hcount
    cases hact : moment.act with
    | get other =>
      rw [hact] at hcall
      obtain rfl := Option.some.inj hcall
      exact .inl ⟨rfl, hget hact⟩
    | count other =>
      rw [hact] at hcall
      obtain rfl := Option.some.inj hcall
      exact .inr ⟨rfl, hcount hact⟩
    | _ =>
      rw [hact] at hcall
      nomatch hcall
  case listing => exact fun listing => exists_lastReport h hcall
  case standing => exact fun listing => report_of_stands h hcall
  case fallen => exact report_of_not_stands h hcall
  case windowless =>
    intro hwindow
    refine (report_of_not_stands h hcall ?_).1
    rintro ⟨listing, before, refresh, since, -, hle, hlt⟩
    omega

end Scenes

/-- One collection is listed and a second one put into the store; calls follow shortly before a minute has gone by and at its
end, and of each two the first meets a store that is down. -/
def minute : List Act :=
  [.insert "world" [], .get none, .insert "zone" [], .advance 59, .count (some (.unavailable "down")), .advance 1,
    .get (some (.unavailable "down")), .count none]

/-- With a window of a minute, within the minute one collection is counted although the store is down. At its end the failure is
told, and then both collections are counted. -/
theorem bounded_of_history_minute :
    ∃ moment later, (Scene.history ⟨.empty, 0, .empty 60⟩ minute).drop 4 = moment :: later ∧
      Bounded 60 ((Scene.history ⟨.empty, 0, .empty 60⟩ minute).take 4) moment (some (.unavailable "down")) ∧
      moment.reports = [] ∧ moment.answer = .count (.ok 1) ∧
      later.map (·.answer) = [.nothing, .listing (.error (.unavailable "down")), .count (.ok 2)] :=
  ⟨_, _, rfl, bounded_of_history 60 0 .empty minute rfl rfl, rfl, rfl, rfl⟩

end ListingCache

end SheetQuery
