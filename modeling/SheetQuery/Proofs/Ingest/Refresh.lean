import Mathlib.Logic.Function.Basic
import SheetQuery.Ingest.Rehearsal
import SheetQuery.Proofs.Ingest.Loading
import SheetQuery.Proofs.Outcome
import SheetQuery.Proofs.Store.Documents

/-!
# Refreshing the collections

Up to the last sheet a cycle does all or nothing: a sheet that cannot be loaded leaves the published data and the collections as
they were. After that the collections change one by one, each as its builder has run and its documents were taken, and the data
are forgotten in the end, however the building went. Between cycles there are no data.
-/

namespace SheetQuery.Ingest

variable {σ : Type}

/-! ## Building -/

/-- Builders have run one after the other: the collections whose documents were taken, in this order, and the outcome. -/
inductive Built (world : World σ) (data : ClientData) :
    List Builder → State σ → List (String × List Json) → Except IngestError BuildReport → State σ → Prop
  /-- All have run. -/
  | finished (s : State σ) : Built world data [] s [] (.ok ⟨[], []⟩) s
  /-- Work has been called off before the next has run. -/
  | calledOff {builder : Builder} {builders : List Builder} {s : State σ} {w : σ}
    (look : world.isTriggered s.world = (true, w)) :
    Built world data (builder :: builders) s [] (.error .cancelled) { s with world := w }
  /-- The next has run, and its documents were taken. -/
  | taken {builder : Builder} {builders : List Builder} {s s' : State σ} {w w' : σ} {documents : List Json}
    {put : List (String × List Json)} {result : Except IngestError BuildReport}
    (look : world.isTriggered s.world = (false, w)) (build : builder.build data = .ok documents)
    (replace : world.replace builder.collection documents w = (.ok (), w'))
    (rest : Built world data builders ({ s with world := w' }.tell .info .collectionBuilt
      [("collection", builder.collection), ("documents", toString documents.length)]) put result s') :
    Built world data (builder :: builders) s ((builder.collection, documents) :: put)
      (result.map fun report => { report with built := builder.collection :: report.built }) s'
  /-- The next could make no documents. -/
  | unbuilt {builder : Builder} {builders : List Builder} {s s' : State σ} {w : σ} {error : IngestError}
    {put : List (String × List Json)} {result : Except IngestError BuildReport}
    (look : world.isTriggered s.world = (false, w)) (build : builder.build data = .error error)
    (rest : Built world data builders ({ s with world := w }.tell .error .collectionBuildFailed
      [("collection", builder.collection), ("error", error.message)]) put result s') :
    Built world data (builder :: builders) s put
      (result.map fun report => { report with failed := builder.collection :: report.failed }) s'
  /-- The next has run, and its documents were refused. -/
  | refused {builder : Builder} {builders : List Builder} {s s' : State σ} {w w' : σ} {documents : List Json}
    {error : IngestError} {put : List (String × List Json)} {result : Except IngestError BuildReport}
    (look : world.isTriggered s.world = (false, w)) (build : builder.build data = .ok documents)
    (replace : world.replace builder.collection documents w = (.error error, w'))
    (rest : Built world data builders ({ s with world := w' }.tell .error .collectionBuildFailed
      [("collection", builder.collection), ("error", error.message)]) put result s') :
    Built world data (builder :: builders) s put
      (result.map fun report => { report with failed := builder.collection :: report.failed }) s'

/-- Work whose report is completed when it is done. -/
theorem Work.map_apply {work : Work σ BuildReport} {s s' : State σ} {result : Except IngestError BuildReport}
    (h : work.run s = (result, s')) (f : BuildReport → BuildReport) :
    (work >>= fun report => pure (f report)).run s = (result.map f, s') := by
  cases result with
  | error error => exact Work.bind_error h _
  | ok report => exact Work.bind_ok h _

theorem buildOne_unbuilt {builder : Builder} {data : ClientData} {error : IngestError}
    (build : builder.build data = .error error) (world : World σ) (s : State σ) :
    buildOne world builder data s = (.error error, s) := by
  rw [buildOne.eq_def, build]
  rfl

/-- Documents that are made are offered, and counted if they are taken. -/
theorem buildOne_offered {world : World σ} {builder : Builder} {data : ClientData} {documents : List Json} {s : State σ}
    {answer : Except IngestError Unit} {w : σ} (build : builder.build data = .ok documents)
    (replace : world.replace builder.collection documents s.world = (answer, w)) :
    buildOne world builder data s = (answer.map fun _ => documents.length, { s with world := w }) := by
  have hworld : inWorld (world.replace builder.collection documents) s = (answer, { s with world := w }) := by
    rw [inWorld, replace]
  rw [buildOne.eq_def, build]
  simp only [bind_apply hworld]
  cases answer <;> rfl

/-- Work that is called off before a builder ends there. -/
theorem runBuilders_calledOff {world : World σ} {s : State σ} {w : σ} (look : world.isTriggered s.world = (true, w))
    (data : ClientData) (builder : Builder) (builders : List Builder) :
    (runBuilders world data (builder :: builders)).run s = (.error .cancelled, { s with world := w }) := by
  rw [runBuilders]
  exact Work.bind_error (stopIfTriggered_apply look) _

/-- Whatever happens, builders run in one of these ways. -/
theorem exists_built (world : World σ) (data : ClientData) (builders : List Builder) (s : State σ) :
    ∃ put result s', (runBuilders world data builders).run s = (result, s') ∧
      Built world data builders s put result s' := by
  induction builders generalizing s with
  | nil => exact ⟨[], _, s, rfl, .finished s⟩
  | cons builder builders ih =>
    cases look : world.isTriggered s.world with
    | mk triggered w =>
    cases triggered with
    | true => exact ⟨[], _, _, runBuilders_calledOff look data builder builders, .calledOff look⟩
    | false =>
      rw [runBuilders, Work.bind_ok (stopIfTriggered_apply look)]
      cases build : builder.build data with
      | error error =>
        obtain ⟨put, result, s', hrest, rest⟩ := ih ({ s with world := w }.tell .error .collectionBuildFailed
          [("collection", builder.collection), ("error", error.message)])
        refine ⟨put, _, s', ?_, .unbuilt look build rest⟩
        rw [Work.bind_ok (lift_apply (buildOne_unbuilt build world { s with world := w }))]
        exact (Work.bind_ok (tell_apply _ _ _ _) _).trans (Work.map_apply hrest _)
      | ok documents =>
      cases replace : world.replace builder.collection documents w with
      | mk answer w' =>
      have hbuild := buildOne_offered (s := { s with world := w }) build replace
      rw [Work.bind_ok (lift_apply hbuild)]
      cases answer with
      | ok _ =>
        obtain ⟨put, result, s', hrest, rest⟩ := ih ({ s with world := w' }.tell .info .collectionBuilt
          [("collection", builder.collection), ("documents", toString documents.length)])
        refine ⟨(builder.collection, documents) :: put, _, s', ?_, .taken look build replace rest⟩
        exact (Work.bind_ok (tell_apply _ _ _ _) _).trans (Work.map_apply hrest _)
      | error error =>
        obtain ⟨put, result, s', hrest, rest⟩ := ih ({ s with world := w' }.tell .error .collectionBuildFailed
          [("collection", builder.collection), ("error", error.message)])
        refine ⟨put, _, s', ?_, .refused look build replace rest⟩
        exact (Work.bind_ok (tell_apply _ _ _ _) _).trans (Work.map_apply hrest _)

/-- The published data stay while builders run. -/
theorem Built.cache {world : World σ} {data : ClientData} {builders : List Builder} {s s' : State σ}
    {put : List (String × List Json)} {result : Except IngestError BuildReport}
    (built : Built world data builders s put result s') : s'.cache = s.cache := by
  induction built with
  | finished => rfl
  | calledOff => rfl
  | taken _ _ _ _ ih | unbuilt _ _ _ ih | refused _ _ _ _ ih => exact ih

/-- Only by being called off does building fail, and otherwise the report names what was taken. -/
theorem Built.result {world : World σ} {data : ClientData} {builders : List Builder} {s s' : State σ}
    {put : List (String × List Json)} {result : Except IngestError BuildReport}
    (built : Built world data builders s put result s') :
    result = .error .cancelled ∨ ∃ report, result = .ok report ∧ report.built = put.map (·.1) := by
  induction built with
  | finished => exact .inr ⟨_, rfl, rfl⟩
  | calledOff => exact .inl rfl
  | taken look build replace rest ih =>
    rcases ih with rfl | ⟨report, rfl, hreport⟩
    · exact .inl rfl
    · exact .inr ⟨_, rfl, congrArg (List.cons _) hreport⟩
  | unbuilt _ _ _ ih | refused _ _ _ _ ih =>
    rcases ih with rfl | ⟨report, rfl, hreport⟩
    · exact .inl rfl
    · exact .inr ⟨_, rfl, hreport⟩

/-- What was taken is what a builder made of the data. -/
theorem Built.exists_builder {world : World σ} {data : ClientData} {builders : List Builder} {s s' : State σ}
    {put : List (String × List Json)} {result : Except IngestError BuildReport}
    (built : Built world data builders s put result s') {entry : String × List Json} (hentry : entry ∈ put) :
    ∃ builder ∈ builders, builder.collection = entry.1 ∧ builder.build data = .ok entry.2 := by
  induction built with
  | finished => nomatch hentry
  | calledOff => nomatch hentry
  | taken look build replace rest ih =>
    rcases List.mem_cons.mp hentry with rfl | hentry
    · exact ⟨_, List.mem_cons_self, rfl, build⟩
    · obtain ⟨builder, hbuilder, hmade⟩ := ih hentry
      exact ⟨builder, List.mem_cons_of_mem _ hbuilder, hmade⟩
  | unbuilt _ _ _ ih | refused _ _ _ _ ih =>
    obtain ⟨builder, hbuilder, hmade⟩ := ih hentry
    exact ⟨builder, List.mem_cons_of_mem _ hbuilder, hmade⟩

/-! ## Collections -/

/-- Collections after documents have been put in the place of some. -/
def replaced (collections : String → Option (List Json)) (put : List (String × List Json)) :
    String → Option (List Json) :=
  put.foldl (fun collections entry => Function.update collections entry.1 (some entry.2)) collections

theorem replaced_cons (collections : String → Option (List Json)) (entry : String × List Json)
    (put : List (String × List Json)) :
    replaced collections (entry :: put) = replaced (Function.update collections entry.1 (some entry.2)) put :=
  rfl

/-- A collection in whose place nothing was put is as it was. -/
theorem replaced_of_notMem {put : List (String × List Json)} {name : String} (h : ∀ entry ∈ put, entry.1 ≠ name)
    (collections : String → Option (List Json)) : replaced collections put name = collections name := by
  induction put generalizing collections with
  | nil => rfl
  | cons entry put ih =>
    have hrest := ih (fun other hother => h other (List.mem_cons_of_mem _ hother))
      (Function.update collections entry.1 (some entry.2))
    exact hrest.trans (Function.update_of_ne (h entry List.mem_cons_self).symm _ _)

/-- The world gives sheets and holds collections as it should: an error of reading names no file but the one that was asked
for, reading leaves the collections alone, and a collection is replaced as a whole or, if it is refused, not at all. -/
structure World.Sound (world : World σ) (collections : σ → String → Option (List Json)) : Prop where
  named : ∀ file w error named, (world.read file w).1 = .error error → error.sheet? = some named → named = file
  reading : ∀ before, world.ReadingMaintains (collections · = before)
  taken : ∀ name documents w w', world.replace name documents w = (.ok (), w') →
    collections w' = Function.update (collections w) name (some documents)
  refused : ∀ name documents w w' error, world.replace name documents w = (.error error, w') →
    collections w' = collections w

/-- The collections change only by what was taken. -/
theorem Built.collections {world : World σ} {collections : σ → String → Option (List Json)}
    (sound : world.Sound collections) {data : ClientData} {builders : List Builder} {s s' : State σ}
    {put : List (String × List Json)} {result : Except IngestError BuildReport}
    (built : Built world data builders s put result s') :
    collections s'.world = replaced (collections s.world) put := by
  have hlook {w w' : σ} {triggered : Bool} (look : world.isTriggered w = (triggered, w')) :
      collections w' = collections w := by
    have hkept := (sound.reading (collections w)).isTriggered w rfl
    rw [look] at hkept
    exact hkept
  induction built with
  | finished => rfl
  | calledOff look => exact hlook look
  | @taken builder _ _ _ w w' documents put _ look build replace rest ih =>
    have hput := sound.taken _ _ _ _ replace
    rw [hlook look] at hput
    rw [ih, replaced_cons, ← hput]
    rfl
  | unbuilt look build rest ih =>
    rw [ih, ← hlook look]
    rfl
  | refused look build replace rest ih =>
    rw [ih, ← hlook look, ← sound.refused _ _ _ _ _ replace]
    rfl

/-! ## Rehearsals -/

/-- Reading in a rehearsal leaves the store alone. -/
theorem store_read (script : Script) (file : String) (rehearsal : Rehearsal) :
    (Rehearsal.read script file rehearsal).2.store = rehearsal.store := by
  have hbegin : rehearsal.beginCycle.store = rehearsal.store := by
    rw [Rehearsal.beginCycle]
    split <;> rfl
  simp only [Rehearsal.read]
  split
  · exact hbegin
  · rfl

/-- Rehearsals give sheets and hold collections as they should. -/
theorem sound_rehearsal (script : Script) : (Rehearsal.world script).Sound (·.store.find?) where
  named file rehearsal error named hread hnamed := by
    obtain ⟨reason, rfl⟩ : ∃ reason, error = .read file reason := by
      simp only [Rehearsal.world, Rehearsal.read] at hread
      split at hread <;> exact exists_of_mapError_error hread
    exact (Option.some.inj hnamed).symm
  reading before :=
    { read := fun file rehearsal hbefore => (congrArg Store.find? (store_read script file rehearsal)).trans hbefore
      isTriggered := fun _ hbefore => hbefore
      now := fun _ hbefore => hbefore }
  taken name documents rehearsal rehearsal' h := by
    have hreplace : Rehearsal.replace script name documents rehearsal = (.ok (), rehearsal') := h
    rw [Rehearsal.replace] at hreplace
    split at hreplace
    · nomatch (Prod.mk.inj hreplace).1
    · obtain ⟨-, rfl⟩ := Prod.mk.inj hreplace
      exact Store.find?_insert rehearsal.store name documents
  refused name documents rehearsal rehearsal' error h := by
    have hreplace : Rehearsal.replace script name documents rehearsal = (.error error, rehearsal') := h
    rw [Rehearsal.replace] at hreplace
    split at hreplace
    · obtain ⟨-, rfl⟩ := Prod.mk.inj hreplace
      rfl
    · nomatch (Prod.mk.inj hreplace).1

/-! ## Cycles -/

/-- A cycle ends with the first sheet that could not be loaded, or else builds from all of them and forgets the data. -/
theorem runCycle_cases (world : World σ) (builders : List Builder) (s : State σ) :
    let begun := (inWorld world.now (s.tell .info .ingestionCycleBegin [])).2
    (∃ sheet error s', FailsAt world sheet error begun s' ∧ (runCycle world builders).run s = (.error error, s')) ∨
      ∃ data s₁ told put result s', Loaded world ClientSheet.all begun s₁ ∧
        (repopulate world).run (s.tell .info .ingestionCycleBegin []) = (.ok data, { s₁ with cache := data, log := told }) ∧
        Built world data builders { s₁ with cache := data, log := told } put result s' ∧
        (runCycle world builders).run s = (result, s'.publish .empty) := by
  intro begun
  rw [runCycle, Work.bind_ok (tell_apply _ _ _ s)]
  rcases repopulate_cases world (s.tell .info .ingestionCycleBegin []) with
    ⟨sheet, error, s', fails, hrun⟩ | ⟨data, s₁, loaded, told, hrun⟩
  · exact .inl ⟨sheet, error, s', fails, Work.bind_error hrun _⟩
  · obtain ⟨put, result, s', hbuilders, built⟩ := exists_built world data builders { s₁ with cache := data, log := told }
    refine .inr ⟨data, s₁, told, put, result, s', loaded, hrun, built, ?_⟩
    rw [Work.bind_ok hrun, Work.bind_ok (lift_apply hbuilders)]
    rfl

/-- A cycle leaves no data behind if there were none before it. -/
theorem keeps_empty_runCycle (world : World σ) (builders : List Builder) :
    Keeps (·.cache = .empty) (runCycle world builders).run := by
  intro s hs
  rcases runCycle_cases world builders s with
    ⟨sheet, error, s', fails, hrun⟩ | ⟨data, s₁, told, put, result, s', loaded, read, built, hrun⟩
  · rw [hrun]
    have always : world.ReadingMaintains fun _ => True := ⟨fun _ _ _ => trivial, fun _ _ => trivial, fun _ _ => trivial⟩
    exact (fails.standing always ⟨trivial, hs⟩).2
  · rw [hrun]
    rfl

/-- Ingestion has no data outside its cycles if it had none at first. -/
theorem maintains_empty (world : World σ) (builders : List Builder) :
    (Routine.ingestion world builders).Maintains (·.cache = .empty) where
  cycle := keeps_empty_runCycle world builders
  isTriggered _ hs := hs
  wait _ _ hs := hs
  tell _ _ hs := hs

/-- A cycle that cannot load all sheets changes neither the published data nor the collections, and the error names the first
sheet at fault. Any other leaves no data behind, and the collections differ from before only where a builder ran and its
documents were taken. So from empty data on there are none whenever no cycle is going on. -/
theorem runCycle_allOrNothing {world : World σ} {collections : σ → String → Option (List Json)}
    (sound : world.Sound collections) (builders : List Builder) (s : State σ) :
    let begun := (inWorld world.now (s.tell .info .ingestionCycleBegin [])).2
    ((∃ sheet error s', FailsAt world sheet error begun s' ∧ (runCycle world builders).run s = (.error error, s') ∧
        s'.cache = s.cache ∧ collections s'.world = collections s.world ∧
        ∀ named, error.sheet? = some named → named = sheet.fileName) ∨
      ∃ data s₁ told put result s', Loaded world ClientSheet.all begun s₁ ∧
        (repopulate world).run (s.tell .info .ingestionCycleBegin []) = (.ok data, { s₁ with cache := data, log := told }) ∧
        Built world data builders { s₁ with cache := data, log := told } put result s' ∧
        (runCycle world builders).run s = (result, s'.publish .empty) ∧
        (result = .error .cancelled ∨ ∃ report, result = .ok report ∧ report.built = put.map (·.1)) ∧
        (∀ entry ∈ put, ∃ builder ∈ builders, builder.collection = entry.1 ∧ builder.build data = .ok entry.2) ∧
        collections s'.world = replaced (collections s.world) put ∧
        ∀ name, (∀ entry ∈ put, entry.1 ≠ name) → collections s'.world name = collections s.world name) ∧
    (s.cache = .empty → ∀ policy fuel,
      (∀ moment ∈ (Routine.ingestion world builders).history policy fuel s,
        moment.before.cache = .empty ∧ moment.after.cache = .empty) ∧
      ((Routine.ingestion world builders).run policy fuel s).2.cache = .empty) := by
  intro begun
  have reading := sound.reading (collections s.world)
  have hbegun : Standing (collections · = collections s.world) s.cache begun := ⟨reading.now s.world rfl, rfl⟩
  refine ⟨?_, fun hempty policy fuel => ?_⟩
  · rcases runCycle_cases world builders s with
      ⟨sheet, error, s', fails, hrun⟩ | ⟨data, s₁, told, put, result, s', loaded, read, built, hrun⟩
    · obtain ⟨hcollections, hcache⟩ := fails.standing reading hbegun
      exact .inl ⟨sheet, error, s', fails, hrun, hcache, hcollections, fun _ hnamed => fails.named sound.named hnamed⟩
    · obtain ⟨hloaded, -⟩ := loaded.standing reading hbegun
      have hcollections : collections s'.world = replaced (collections s.world) put := by
        rw [built.collections sound]
        exact congrArg (replaced · put) hloaded
      refine .inr ⟨data, s₁, told, put, result, s', loaded, read, built, hrun, built.result,
        fun _ => built.exists_builder, hcollections, fun name hname => ?_⟩
      rw [hcollections, replaced_of_notMem hname]
  · exact (Routine.ran_history _ policy fuel s).maintains (maintains_empty world builders) hempty

/-- A rehearsal in which only the first sheet is there, and has no header. -/
theorem runCycle_allOrNothing_noHeader :
    let world := Rehearsal.world ⟨"no such sheet", [], "refused", "12:00", none, none⟩
    let s : State Rehearsal := ⟨.start [("Currency.txt", .ok [])] [] .empty, .empty, []⟩
    world.Sound (·.store.find?) ∧ s.cache = .empty ∧
      ((runCycle world Builder.all).run s).1 = .error (.decode "Currency.txt" (.ofFault .missingHeader)) ∧
      ∀ policy fuel,
        (∀ moment ∈ (Routine.ingestion world Builder.all).history policy fuel s,
          moment.before.cache = .empty ∧ moment.after.cache = .empty) ∧
        ((Routine.ingestion world Builder.all).run policy fuel s).2.cache = .empty :=
  have sound := sound_rehearsal ⟨"no such sheet", [], "refused", "12:00", none, none⟩
  ⟨sound, rfl, rfl,
    (runCycle_allOrNothing sound Builder.all ⟨.start [("Currency.txt", .ok [])] [] .empty, .empty, []⟩).2 rfl⟩

end SheetQuery.Ingest
