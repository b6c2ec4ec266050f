import Mathlib.Data.List.Nodup
import SheetQuery.Proofs.Ingest.Refresh

/-!
# Builders that do not affect each other

Of builders of different collections each has its own turn. Whether it fails, and what its collection holds afterwards, lies in
what it makes of the data and in whether that is taken, and no other collection changes at its turn. Where a refusal lies in the
collection alone, the order of the builders counts for nothing but the order of the report. Work that is called off between two
builders ends with what the builders before have done (`runBuilders_isolated`). A refusal that lies in other collections lets
the order count (`runBuilders_reversed_narrow`).
-/

namespace SheetQuery.Ingest

variable {σ : Type} {world : World σ} {collections : σ → String → Option (List Json)}

/-! ## Places for collections -/

/-- The world holds collections as it should: looking whether work is called off leaves them alone, and a collection is replaced
as a whole or, if it is refused, not at all. -/
structure World.Publishes (world : World σ) (collections : σ → String → Option (List Json)) : Prop where
  look : ∀ w, collections (world.isTriggered w).2 = collections w
  taken : ∀ name documents w w', world.replace name documents w = (.ok (), w') →
    collections w' = Function.update (collections w) name (some documents)
  refused : ∀ name documents w w' error, world.replace name documents w = (.error error, w') →
    collections w' = collections w

theorem World.Sound.publishes (sound : world.Sound collections) : world.Publishes collections :=
  ⟨fun w => (sound.reading (collections w)).isTriggered w rfl, sound.taken, sound.refused⟩

/-- Whether the world refuses documents for a collection. -/
def World.Refuses (world : World σ) (name : String) (documents : List Json) (w : σ) : Prop :=
  ∃ error, (world.replace name documents w).1 = .error error

/-- Whether documents are refused lies in the collection: its name, the documents and what it has held before. -/
def World.Impartial (world : World σ) (collections : σ → String → Option (List Json)) : Prop :=
  ∀ name documents w w', collections w name = collections w' name →
    (world.Refuses name documents w ↔ world.Refuses name documents w')

/-! ## Turns -/

/-- The report of builders and of others after them. -/
def BuildReport.append (first second : BuildReport) : BuildReport :=
  ⟨first.built ++ second.built, first.failed ++ second.failed⟩

/-- Builders run one after the other, wherever they are divided. -/
theorem runBuilders_append (world : World σ) (data : ClientData) (before after : List Builder) :
    runBuilders world data (before ++ after) = do
      let first ← runBuilders world data before
      let second ← runBuilders world data after
      return first.append second := by
  induction before with
  | nil => simp [runBuilders, BuildReport.append]
  | cons builder before ih =>
    rw [List.cons_append, runBuilders, runBuilders, bind_assoc]
    refine bind_congr fun _ => ?_
    rw [bind_assoc]
    refine bind_congr fun answer => ?_
    cases answer with
    | ok count => simp [ih, BuildReport.append]
    | error error => simp [ih, BuildReport.append]

variable {data : ClientData} {before after builders : List Builder} {builder : Builder} {s s₁ s' : State σ}
  {report : BuildReport}

/-- When builders have all run, the others run from where they leave off. -/
theorem runBuilders_append_apply {result : Except IngestError BuildReport}
    (hbefore : (runBuilders world data before).run s = (.ok report, s₁))
    (hafter : (runBuilders world data after).run s₁ = (result, s')) :
    (runBuilders world data (before ++ after)).run s = (result.map report.append, s') := by
  rw [runBuilders_append, Work.bind_ok hbefore]
  exact Work.map_apply hafter _

/-- Whether a builder fails at its turn, after others have run: it makes nothing of the data, or what it makes is refused. -/
def FailsAfter (world : World σ) (data : ClientData) (before : List Builder) (builder : Builder) (s : State σ) : Prop :=
  (∃ error, builder.build data = .error error) ∨
    ∃ documents report s₁, builder.build data = .ok documents ∧ (runBuilders world data before).run s = (.ok report, s₁) ∧
      world.Refuses builder.collection documents (world.isTriggered s₁.world).2

/-- What a builder does at its turn: it fails and changes nothing, or its collection is replaced. -/
inductive Turn (world : World σ) (collections : σ → String → Option (List Json)) (data : ClientData) (builder : Builder)
    (s : State σ) : BuildReport → State σ → Prop
  | failed {s₁ : State σ} (fails : FailsAfter world data [] builder s)
    (unchanged : collections s₁.world = collections s.world) :
    Turn world collections data builder s ⟨[], [builder.collection]⟩ s₁
  | built {s₁ : State σ} {documents : List Json} (succeeds : ¬ FailsAfter world data [] builder s)
    (build : builder.build data = .ok documents)
    (replaced : collections s₁.world = Function.update (collections s.world) builder.collection (some documents)) :
    Turn world collections data builder s ⟨[builder.collection], []⟩ s₁

/-- The turn of a builder, unless work has been called off before it. -/
theorem exists_turn (publishes : world.Publishes collections) (untriggered : (world.isTriggered s.world).1 = false)
    (data : ClientData) (builder : Builder) :
    ∃ report s₁, (runBuilders world data [builder]).run s = (.ok report, s₁) ∧
      Turn world collections data builder s report s₁ := by
  obtain ⟨put, result, s₁, hrun, built⟩ := exists_built world data [builder] s
  have hlook := publishes.look s.world
  cases built with
  | calledOff look =>
    rw [look] at untriggered
    nomatch untriggered
  | @taken _ _ _ _ w w' documents _ _ look build replace rest =>
    cases rest
    rw [look] at hlook
    refine ⟨_, _, hrun, .built ?_ build ?_⟩
    · rintro (⟨error, herror⟩ | ⟨others, report, s₂, hothers, hnone, error, herror⟩)
      · rw [build] at herror
        nomatch herror
      · obtain rfl := Except.ok.inj (build.symm.trans hothers)
        obtain rfl : s = s₂ := (Prod.mk.inj hnone).2
        rw [look, replace] at herror
        nomatch herror
    · rw [← hlook]
      exact publishes.taken _ _ _ _ replace
  | unbuilt look build rest =>
    cases rest
    rw [look] at hlook
    exact ⟨_, _, hrun, .failed (.inl ⟨_, build⟩) hlook⟩
  | @refused _ _ _ _ w w' documents error _ _ look build replace rest =>
    cases rest
    rw [look] at hlook
    refine ⟨_, _, hrun, .failed (.inr ⟨documents, _, s, build, rfl, error, ?_⟩) ?_⟩
    · rw [look, replace]
    · rw [← hlook]
      exact publishes.refused _ _ _ _ _ replace

namespace Turn

variable {own : BuildReport} (turn : Turn world collections data builder s own s₁)
include turn

theorem parted : own.built ++ own.failed = [builder.collection] := by
  cases turn <;> rfl

theorem mem_failed_iff : builder.collection ∈ own.failed ↔ FailsAfter world data [] builder s := by
  cases turn with
  | failed fails => exact iff_of_true List.mem_cons_self fails
  | built succeeds => exact iff_of_false List.not_mem_nil succeeds

theorem holds (h : builder.collection ∈ own.built) :
    ∃ documents, builder.build data = .ok documents ∧ collections s₁.world builder.collection = some documents := by
  cases turn with
  | failed => cases h
  | built succeeds build replaced => exact ⟨_, build, by rw [replaced, Function.update_self]⟩

theorem unchanged {name : String} (h : name ∉ own.built) : collections s₁.world name = collections s.world name := by
  cases turn with
  | failed _ unchanged => rw [unchanged]
  | built _ _ replaced =>
    have hne : name ≠ builder.collection := fun heq => h (List.mem_singleton.2 heq)
    rw [replaced, Function.update_of_ne hne]

end Turn

/-! ## Passes -/

/-- Whether work is not called off before any of the builders. -/
def Untriggered (world : World σ) (data : ClientData) (builders : List Builder) (s : State σ) : Prop :=
  ∀ before builder after report s₁, builders = before ++ builder :: after →
    (runBuilders world data before).run s = (.ok report, s₁) → (world.isTriggered s₁.world).1 = false

/-- What comes of builders that have all run. -/
structure Isolated (world : World σ) (collections : σ → String → Option (List Json)) (data : ClientData)
    (builders : List Builder) (s : State σ) (report : BuildReport) (s' : State σ) : Prop where
  builtInOrder : report.built.Sublist (builders.map (·.collection))
  failedInOrder : report.failed.Sublist (builders.map (·.collection))
  parted : (report.built ++ report.failed).Perm (builders.map (·.collection))
  /-- The collections that failed are those whose builder failed at its turn. -/
  failed_iff : ∀ before builder after, builders = before ++ builder :: after →
    (builder.collection ∈ report.failed ↔ FailsAfter world data before builder s)
  /-- A collection that was built holds what its builder makes of the data. -/
  holds : ∀ builder ∈ builders, builder.collection ∈ report.built →
    ∃ documents, builder.build data = .ok documents ∧ collections s'.world builder.collection = some documents
  unchanged : ∀ name, name ∉ report.built → collections s'.world name = collections s.world name

namespace Isolated

theorem nil (s : State σ) : Isolated world collections data [] s ⟨[], []⟩ s where
  builtInOrder := .refl _
  failedInOrder := .refl _
  parted := .refl _
  failed_iff _ _ _ h := absurd h.symm (List.append_ne_nil_of_right_ne_nil _ (List.cons_ne_nil _ _))
  holds _ h := nomatch h
  unchanged _ _ := rfl

/-- After a builder has run first, a builder fails among the others as it fails behind it. -/
theorem failsAfter_cons {first : Builder} (hfirst : (runBuilders world data [first]).run s = (.ok report, s₁)) :
    FailsAfter world data (first :: before) builder s ↔ FailsAfter world data before builder s₁ := by
  refine or_congr_right (exists_congr fun documents => ?_)
  constructor
  · rintro ⟨all, s₂, build, hrun, refuses⟩
    cases hbefore : (runBuilders world data before).run s₁ with
    | mk result s₃ =>
    have hall := runBuilders_append_apply hfirst hbefore
    rw [List.singleton_append, hrun] at hall
    obtain ⟨hresult, rfl⟩ := Prod.mk.inj hall
    cases result with
    | error error => nomatch hresult
    | ok rest => exact ⟨rest, s₂, build, rfl, refuses⟩
  · rintro ⟨rest, s₂, build, hrun, refuses⟩
    exact ⟨_, s₂, build, runBuilders_append_apply hfirst hrun, refuses⟩

/-- What comes of builders, with the turn of one before them whose collection is none of theirs. -/
theorem cons {first : Builder} {own : BuildReport} (hfirst : (runBuilders world data [first]).run s = (.ok own, s₁))
    (turn : Turn world collections data first s own s₁) (hnew : first.collection ∉ builders.map (·.collection))
    (rest : Isolated world collections data builders s₁ report s') :
    Isolated world collections data (first :: builders) s (own.append report) s' := by
  have hunbuilt : first.collection ∉ report.built := fun h => hnew (rest.builtInOrder.subset h)
  have hunfailed : first.collection ∉ report.failed := fun h => hnew (rest.failedInOrder.subset h)
  have hother : ∀ builder ∈ builders, builder.collection ≠ first.collection := fun builder hbuilder heq =>
    hnew (heq ▸ List.mem_map_of_mem hbuilder)
  have hbuilt : own.built.Sublist [first.collection] := turn.parted ▸ List.sublist_append_left _ _
  have hfailed : own.failed.Sublist [first.collection] := turn.parted ▸ List.sublist_append_right _ _
  constructor
  case builtInOrder => exact hbuilt.append rest.builtInOrder
  case failedInOrder => exact hfailed.append rest.failedInOrder
  case parted =>
    have hswap : (own.built ++ report.built ++ (own.failed ++ report.failed)).Perm
        (own.built ++ own.failed ++ (report.built ++ report.failed)) := by
      rw [List.append_assoc, List.append_assoc]
      exact (List.perm_append_left_iff _).2 (List.perm_append_comm_assoc _ _ _)
    rw [turn.parted] at hswap
    exact hswap.trans (rest.parted.cons _)
  case failed_iff =>
    intro before builder after hsplit
    rw [BuildReport.append, List.mem_append]
    cases before with
    | nil =>
      obtain ⟨rfl, rfl⟩ := List.cons.inj hsplit
      rw [or_iff_left hunfailed, turn.mem_failed_iff]
    | cons other before =>
      obtain ⟨rfl, rfl⟩ := List.cons.inj hsplit
      have hbuilder := hother builder (List.mem_append_right _ List.mem_cons_self)
      have hnot : builder.collection ∉ own.failed := fun h => hbuilder (List.mem_singleton.1 (hfailed.subset h))
      rw [or_iff_right hnot, failsAfter_cons hfirst]
      exact rest.failed_iff before builder after rfl
  case holds =>
    intro builder hbuilder hmem
    rw [BuildReport.append, List.mem_append] at hmem
    rcases List.mem_cons.1 hbuilder with rfl | hbuilder
    · rw [rest.unchanged _ hunbuilt]
      exact turn.holds (hmem.resolve_right hunbuilt)
    · refine rest.holds builder hbuilder (hmem.resolve_left fun h => ?_)
      exact hother builder hbuilder (List.mem_singleton.1 (hbuilt.subset h))
  case unchanged =>
    intro name hname
    rw [BuildReport.append, List.mem_append, not_or] at hname
    rw [rest.unchanged name hname.2, turn.unchanged hname.1]

end Isolated

/-- Builders that are not called off all have their turns. -/
theorem exists_isolated (publishes : world.Publishes collections) (hnodup : (builders.map (·.collection)).Nodup)
    (untriggered : Untriggered world data builders s) :
    ∃ report s', (runBuilders world data builders).run s = (.ok report, s') ∧
      Isolated world collections data builders s report s' := by
  induction builders generalizing s with
  | nil => exact ⟨_, _, rfl, .nil s⟩
  | cons first builders ih =>
    rw [List.map_cons, List.nodup_cons] at hnodup
    obtain ⟨own, s₁, hfirst, turn⟩ := exists_turn publishes (untriggered [] first builders _ s rfl rfl) data first
    have hrest : Untriggered world data builders s₁ := fun before builder after report s₂ hsplit hrun =>
      untriggered (first :: before) builder after _ s₂ (congrArg _ hsplit) (runBuilders_append_apply hfirst hrun)
    obtain ⟨report, s', hrun, rest⟩ := ih hnodup.2 hrest
    exact ⟨_, s', runBuilders_append_apply hfirst hrun, rest.cons hfirst turn hnodup.1⟩

/-- Work is not called off while builders run if it has not been before, and neither looking nor replacing calls it off. -/
theorem untriggered_of_keeps {p : σ → Prop} (huntriggered : ∀ w, p w → (world.isTriggered w).1 = false)
    (hlook : Keeps p world.isTriggered) (hreplace : ∀ name documents, Keeps p (world.replace name documents))
    (hs : p s.world) (data : ClientData) (builders : List Builder) : Untriggered world data builders s := by
  intro before builder after report s₁ _ hrun
  have hkept := keeps_ofStanding (fun _ => keeps_runBuilders hlook hreplace data before) s hs
  rw [hrun] at hkept
  exact huntriggered _ hkept

/-! ## Orders -/

/-- Where a refusal lies in the collection, a builder fails behind others as it would before them. -/
theorem failsAfter_iff (publishes : world.Publishes collections) (impartial : world.Impartial collections)
    (hrun : (runBuilders world data before).run s = (.ok report, s₁))
    (isolated : Isolated world collections data before s report s₁) (hnew : builder.collection ∉ before.map (·.collection)) :
    FailsAfter world data before builder s ↔ FailsAfter world data [] builder s := by
  have hsame : collections (world.isTriggered s₁.world).2 builder.collection =
      collections (world.isTriggered s.world).2 builder.collection := by
    rw [publishes.look, publishes.look]
    exact isolated.unchanged _ fun h => hnew (isolated.builtInOrder.subset h)
  refine or_congr_right (exists_congr fun documents => ?_)
  have hrefuses := impartial builder.collection documents _ _ hsame
  constructor
  · rintro ⟨_, s₂, build, hbefore, refuses⟩
    obtain rfl : s₁ = s₂ := (Prod.mk.inj (hrun.symm.trans hbefore)).2
    exact ⟨_, s, build, rfl, hrefuses.1 refuses⟩
  · rintro ⟨_, s₂, build, hnone, refuses⟩
    obtain rfl : s = s₂ := (Prod.mk.inj hnone).2
    exact ⟨report, s₁, build, hrun, hrefuses.2 refuses⟩

namespace Isolated

/-- Where a refusal lies in the collection, the builders that failed are those that would fail at once. -/
theorem failed_iff_of_impartial (isolated : Isolated world collections data builders s report s')
    (publishes : world.Publishes collections) (impartial : world.Impartial collections)
    (hnodup : (builders.map (·.collection)).Nodup) (untriggered : Untriggered world data builders s)
    (hbuilder : builder ∈ builders) : builder.collection ∈ report.failed ↔ FailsAfter world data [] builder s := by
  obtain ⟨before, after, rfl⟩ := List.append_of_mem hbuilder
  rw [List.map_append, List.map_cons, List.nodup_append] at hnodup
  have hbefore : Untriggered world data before s := by
    intro first other rest report s₂ hsplit
    exact untriggered first other (rest ++ builder :: after) report s₂ (by rw [hsplit, List.append_assoc]; rfl)
  obtain ⟨report, s₁, hrun, before_isolated⟩ := exists_isolated publishes hnodup.1 hbefore
  rw [isolated.failed_iff before builder after rfl]
  refine failsAfter_iff publishes impartial hrun before_isolated fun h => ?_
  exact hnodup.2.2 _ h _ List.mem_cons_self rfl

/-- The collections that were built are those that did not fail. -/
theorem mem_built_iff (isolated : Isolated world collections data builders s report s')
    (hnodup : (builders.map (·.collection)).Nodup) {name : String} :
    name ∈ report.built ↔ name ∈ builders.map (·.collection) ∧ name ∉ report.failed := by
  have hparts := isolated.parted.nodup_iff.2 hnodup
  constructor
  · intro h
    exact ⟨isolated.builtInOrder.subset h, fun hfailed => (List.nodup_append.1 hparts).2.2 _ h _ hfailed rfl⟩
  · rintro ⟨h, hfailed⟩
    exact (List.mem_append.1 (isolated.parted.symm.subset h)).resolve_right hfailed

/-- Of two passes in which the same collections failed, each leaves the same as the other. -/
theorem same {builders' : List Builder} {report' : BuildReport} {s'' : State σ}
    (isolated : Isolated world collections data builders s report s')
    (isolated' : Isolated world collections data builders' s report' s'') (hperm : builders.Perm builders')
    (hnodup : (builders.map (·.collection)).Nodup)
    (hfailed : ∀ name ∈ builders.map (·.collection), name ∈ report'.failed ↔ name ∈ report.failed) :
    collections s''.world = collections s'.world ∧ report'.built.Perm report.built ∧
      report'.failed.Perm report.failed := by
  have hnames : (builders.map (·.collection)).Perm (builders'.map (·.collection)) := hperm.map _
  have hnodup' := hnames.nodup_iff.1 hnodup
  have hbuilt_mem : ∀ name, name ∈ report'.built ↔ name ∈ report.built := by
    intro name
    rw [isolated.mem_built_iff hnodup, isolated'.mem_built_iff hnodup', ← hnames.mem_iff]
    exact and_congr_right fun h => not_congr (hfailed name h)
  have hfailed_mem : ∀ name, name ∈ report'.failed ↔ name ∈ report.failed := by
    intro name
    constructor
    · intro h
      exact (hfailed name (hnames.symm.subset (isolated'.failedInOrder.subset h))).1 h
    · intro h
      exact (hfailed name (isolated.failedInOrder.subset h)).2 h
  refine ⟨funext fun name => ?_, ?_, ?_⟩
  · by_cases h : name ∈ report.built
    · obtain ⟨builder, hbuilder, rfl⟩ := List.mem_map.1 (isolated.builtInOrder.subset h)
      obtain ⟨documents, build, hholds⟩ := isolated.holds builder hbuilder h
      obtain ⟨others, build', hholds'⟩ := isolated'.holds builder (hperm.subset hbuilder) ((hbuilt_mem _).2 h)
      rw [hholds, hholds', Except.ok.inj (build.symm.trans build')]
    · rw [isolated.unchanged name h, isolated'.unchanged name (mt (hbuilt_mem name).1 h)]
  · exact (List.perm_ext_iff_of_nodup (isolated'.builtInOrder.nodup hnodup') (isolated.builtInOrder.nodup hnodup)).2 hbuilt_mem
  · exact (List.perm_ext_iff_of_nodup (isolated'.failedInOrder.nodup hnodup') (isolated.failedInOrder.nodup hnodup)).2
      hfailed_mem

end Isolated

/-! ## Rehearsals -/

/-- What a rehearsal refuses is settled beforehand. -/
theorem refuses_rehearsal (script : Script) {name : String} {documents : List Json} {rehearsal : Rehearsal} :
    (Rehearsal.world script).Refuses name documents rehearsal ↔ name ∈ script.refused := by
  have hreplace : (Rehearsal.world script).replace name documents rehearsal =
      Rehearsal.replace script name documents rehearsal := rfl
  rw [World.Refuses, hreplace, Rehearsal.replace, ← List.contains_iff_mem]
  split
  · rename_i hrefused
    exact iff_of_true ⟨_, rfl⟩ hrefused
  · rename_i hrefused
    refine iff_of_false ?_ hrefused
    rintro ⟨error, h⟩
    cases h

theorem impartial_rehearsal (script : Script) : (Rehearsal.world script).Impartial (·.store.find?) :=
  fun _ _ _ _ _ => (refuses_rehearsal script).trans (refuses_rehearsal script).symm

/-- Builders do not call off a rehearsal. -/
theorem untriggered_rehearsal (script : Script) {s : State Rehearsal} (hs : s.world.stopped = false) (data : ClientData)
    (builders : List Builder) : Untriggered (Rehearsal.world script) data builders s := by
  refine untriggered_of_keeps (p := (·.stopped = false)) (fun _ h => h) (fun _ h => h) (fun name documents rehearsal h => ?_)
    hs data builders
  simp only [Rehearsal.world, Rehearsal.replace]
  split <;> exact h

/-! ## All builders -/

/-- Builders of different collections do not affect each other. Unless work is called off they all run, and each has its
collection built from the data or fails by itself; no other collection changes. Where a refusal lies in the collection, they
can run in any order. Work that is called off after some of them ends with what these have done. -/
theorem runBuilders_isolated (publishes : world.Publishes collections) (data : ClientData) {builders : List Builder}
    (hnodup : (builders.map (·.collection)).Nodup) (s : State σ) :
    (Untriggered world data builders s →
      ∃ report s', (runBuilders world data builders).run s = (.ok report, s') ∧
        Isolated world collections data builders s report s' ∧
        (world.Impartial collections → ∀ builders', builders.Perm builders' → Untriggered world data builders' s →
          ∃ report' s'', (runBuilders world data builders').run s = (.ok report', s'') ∧
            collections s''.world = collections s'.world ∧ report'.built.Perm report.built ∧
            report'.failed.Perm report.failed)) ∧
      ∀ k < builders.length, ∀ report s₁, (runBuilders world data (builders.take k)).run s = (.ok report, s₁) →
        (world.isTriggered s₁.world).1 = true →
        ∃ s', (runBuilders world data builders).run s = (.error .cancelled, s') ∧
          collections s'.world = collections s₁.world := by
  constructor
  · intro untriggered
    obtain ⟨report, s', hrun, isolated⟩ := exists_isolated publishes hnodup untriggered
    refine ⟨report, s', hrun, isolated, fun impartial builders' hperm untriggered' => ?_⟩
    have hnodup' : (builders'.map (·.collection)).Nodup := (hperm.map _).nodup_iff.1 hnodup
    obtain ⟨report', s'', hrun', isolated'⟩ := exists_isolated publishes hnodup' untriggered'
    refine ⟨report', s'', hrun', isolated.same isolated' hperm hnodup fun name hname => ?_⟩
    obtain ⟨builder, hbuilder, rfl⟩ := List.mem_map.1 hname
    rw [isolated.failed_iff_of_impartial publishes impartial hnodup untriggered hbuilder,
      isolated'.failed_iff_of_impartial publishes impartial hnodup' untriggered' (hperm.subset hbuilder)]
  · intro k hk report s₁ hrun triggered
    have look : world.isTriggered s₁.world = (true, (world.isTriggered s₁.world).2) := Prod.ext triggered rfl
    have hrest := runBuilders_calledOff look data builders[k] (builders.drop (k + 1))
    have hall := runBuilders_append_apply hrun hrest
    rw [← List.drop_eq_getElem_cons hk, List.take_append_drop] at hall
    exact ⟨_, hall, publishes.look s₁.world⟩

/-- Of three builders one has no data and one is refused, in either order. With work called off as soon as there are factions,
the images have no turn. -/
theorem runBuilders_isolated_refused :
    let script : Script := ⟨"no such sheet", ["image_set"], "refused", "12:00", none, none⟩
    let world := Rehearsal.world script
    let hasty : World Rehearsal :=
      { world with isTriggered := fun rehearsal => ((rehearsal.store.find? "faction").isSome, rehearsal) }
    let s : State Rehearsal := ⟨.start [] [] (Store.empty.insert "image_set" [.null]), .empty, []⟩
    let data : ClientData := ⟨none, none, some [⟨7, 10, none, none, 0, "VS", true⟩], some [], none⟩
    let builders := [Builder.currency, Builder.faction, Builder.imageSet]
    world.Publishes (·.store.find?) ∧ hasty.Publishes (·.store.find?) ∧ (builders.map (·.collection)).Nodup ∧
      Untriggered world data builders s ∧ world.Impartial (·.store.find?) ∧
      (∃ s', (runBuilders world data builders).run s = (.ok ⟨["faction"], ["currency", "image_set"]⟩, s') ∧
        s'.world.store.find? "image_set" = some [.null] ∧
        ∃ report' s'', (runBuilders world data builders.reverse).run s = (.ok report', s'') ∧
          s''.world.store.find? = s'.world.store.find?) ∧
      ∃ report s₁ s', (runBuilders hasty data (builders.take 2)).run s = (.ok report, s₁) ∧
        (runBuilders hasty data builders).run s = (.error .cancelled, s') ∧
        s'.world.store.find? = s₁.world.store.find? := by
  intro script world hasty s data builders
  have publishes : world.Publishes (·.store.find?) := (sound_rehearsal script).publishes
  have hurried : hasty.Publishes (·.store.find?) := ⟨fun _ => rfl, publishes.taken, publishes.refused⟩
  have hnodup : (builders.map (·.collection)).Nodup := by decide
  have untriggered := untriggered_rehearsal script (s := s) rfl data
  have impartial := impartial_rehearsal script
  refine ⟨publishes, hurried, hnodup, untriggered builders, impartial, ?_, ?_⟩
  · obtain ⟨report, s', hrun, isolated, horder⟩ :=
      (runBuilders_isolated publishes data hnodup s).1 (untriggered builders)
    have hreport : ((runBuilders world data builders).run s).1 = .ok ⟨["faction"], ["currency", "image_set"]⟩ := rfl
    rw [hrun] at hreport
    obtain rfl := Except.ok.inj hreport
    obtain ⟨report', s'', hrun', hsame, -⟩ := horder impartial _ builders.reverse_perm.symm (untriggered _)
    exact ⟨s', hrun, isolated.unchanged "image_set" (by decide), report', s'', hrun', hsame⟩
  · obtain ⟨s', hrun, hsame⟩ := (runBuilders_isolated hurried data hnodup s).2 2 (by decide) _ _ rfl rfl
    exact ⟨_, _, s', rfl, hrun, hsame⟩

/-! ## Room for one collection -/

/-- A world with room for one collection. This one can be put anew, and any other is refused while it is there. -/
def World.narrow : World (Option (String × List Json)) where
  read file := pure (.error (.read file "no such sheet"))
  isTriggered := pure false
  replace name documents held :=
    if held.all (·.1 = name) then (.ok (), some (name, documents)) else (.error (.publish name "no room"), held)
  now := pure "12:00"
  wait _ := pure false

/-- What the collection holds for which there is room. -/
def heldCollections (held : Option (String × List Json)) (name : String) : Option (List Json) :=
  held.bind fun (other, documents) => if name = other then some documents else none

/-- Where there is room for one collection, a refusal leaves it as it was. -/
theorem publishes_narrow : World.narrow.Publishes heldCollections where
  look _ := rfl
  taken name documents held held' h := by
    simp only [World.narrow] at h
    split at h
    · rename_i hroom
      obtain rfl : some (name, documents) = held' := (Prod.mk.inj h).2
      funext asked
      rcases eq_or_ne asked name with rfl | hne
      · rw [Function.update_self]
        exact if_pos rfl
      · rw [Function.update_of_ne hne]
        cases held with
        | none => exact if_neg hne
        | some other =>
          obtain rfl : other.1 = name := by simpa using hroom
          exact (if_neg hne).trans (if_neg hne).symm
    · nomatch (Prod.mk.inj h).1
  refused name documents held held' error h := by
    simp only [World.narrow] at h
    split at h
    · nomatch (Prod.mk.inj h).1
    · rw [(Prod.mk.inj h).2]

/-- Where there is room for one collection, it is for the one whose builder comes first: a refusal that does not lie in the
collection alone makes the order of the builders count. -/
theorem runBuilders_reversed_narrow :
    let data : ClientData := ⟨some [⟨1, 10, none, 5, 6, none⟩], none, some [⟨7, 10, none, none, 0, "VS", true⟩], none, none⟩
    let builders := [Builder.currency, Builder.faction]
    let s : State (Option (String × List Json)) := ⟨none, .empty, []⟩
    World.narrow.Publishes heldCollections ∧ (builders.map (·.collection)).Nodup ∧
      Untriggered World.narrow data builders s ∧ Untriggered World.narrow data builders.reverse s ∧
      ∃ report s' report' s'', (runBuilders World.narrow data builders).run s = (.ok report, s') ∧
        (runBuilders World.narrow data builders.reverse).run s = (.ok report', s'') ∧
        report = ⟨["currency"], ["faction"]⟩ ∧ report' = ⟨["faction"], ["currency"]⟩ ∧
        heldCollections s''.world ≠ heldCollections s'.world ∧ ¬ report'.built.Perm report.built ∧
        ¬ report'.failed.Perm report.failed := by
  intro data builders s
  have untriggered : ∀ builders, Untriggered World.narrow data builders s := fun _ _ _ _ _ _ _ _ => rfl
  refine ⟨publishes_narrow, by decide, untriggered _, untriggered _, _, _, _, _, rfl, rfl, rfl, rfl, fun hsame => ?_,
    by decide, by decide⟩
  nomatch congrFun hsame "faction"

end SheetQuery.Ingest
