import SheetQuery.Proofs.Ingest.History

/-!
# What work keeps

All that work does is put together from what happens in the world, the log and the published data. A property of the world
that each act of the world keeps is therefore kept by a whole cycle; while sheets are read only the reading acts matter, and
the published data stay as well. What each act of a routine keeps is kept by its runs.
-/

namespace SheetQuery.Ingest

open Sheet

variable {σ τ α β : Type}

/-- An act keeps a property if the property holds after it whenever it held before. -/
def Keeps (p : σ → Prop) (act : StateM σ α) : Prop := ∀ s, p s → p (act s).2

namespace Keeps

variable {p : σ → Prop}

theorem pure (a : α) : Keeps p (Pure.pure a : StateM σ α) := fun _ hs => hs

theorem bind {act : StateM σ α} {next : α → StateM σ β} (hact : Keeps p act) (hnext : ∀ a, Keeps p (next a)) :
    Keeps p (act >>= next) := fun s hs => hnext (act s).1 (act s).2 (hact s hs)

end Keeps

/-! ## Laws of the world -/

/-- Whatever happens in the world while sheets are read keeps a property of it. -/
structure World.ReadingMaintains (world : World σ) (p : σ → Prop) : Prop where
  read : ∀ file, Keeps p (world.read file)
  isTriggered : Keeps p world.isTriggered
  now : Keeps p world.now

/-- Whatever happens in the world keeps a property of it. -/
structure World.Maintains (world : World σ) (p : σ → Prop) : Prop extends world.ReadingMaintains p where
  replace : ∀ name documents, Keeps p (world.replace name documents)
  wait : ∀ delay, Keeps p (world.wait delay)

/-- Whatever the worker does keeps a property of where it stands. -/
structure Routine.Maintains (routine : Routine τ) (p : τ → Prop) : Prop where
  cycle : Keeps p routine.cycle
  isTriggered : Keeps p routine.isTriggered
  wait : ∀ delay, Keeps p (routine.wait delay)
  tell : ∀ entry, Keeps p (routine.tell entry)

/-! ## Sheets -/

section Sheets

variable {p : σ → Prop} {check : StateM σ Bool}

theorem keeps_collectLinesUntil (hcheck : Keeps p check) (shape : Shape α) (schema : Schema) (number : Nat)
    (lines : List (Nat × Except SheetError RawLine)) :
    Keeps p (Records.collectLinesUntil check shape schema number lines) := by
  induction lines generalizing number with
  | nil =>
    rw [Records.collectLinesUntil]
    refine hcheck.bind fun triggered => ?_
    cases triggered <;> exact .pure _
  | cons line lines ih =>
    obtain ⟨next, line⟩ := line
    rw [Records.collectLinesUntil]
    refine hcheck.bind fun triggered => ?_
    cases triggered with
    | true => exact .pure _
    | false =>
      simp only [Bool.false_eq_true, if_false]
      cases line.bind fun cells => materialize shape schema cells next with
      | error error => exact .pure _
      | ok record =>
        refine (ih next).bind fun records => ?_
        cases records <;> exact .pure _

theorem keeps_decodeUntil (hcheck : Keeps p check) (shape : Shape α) (bytes : List UInt8) (registry : Registry) :
    Keeps p (decodeUntil check shape bytes registry) := by
  rw [decodeUntil]
  refine hcheck.bind fun triggered => ?_
  cases triggered with
  | true => exact .pure _
  | false =>
    simp only [Bool.false_eq_true, if_false]
    split
    · exact .pure _
    · exact (keeps_collectLinesUntil hcheck _ _ _ _).bind fun _ => .pure _

end Sheets

/-! ## Work -/

/-- The property of the world holds, and these data are published. -/
def Standing (p : σ → Prop) (data : ClientData) (state : State σ) : Prop :=
  p state.world ∧ state.cache = data

section Work

variable {p : σ → Prop} {data : ClientData} {world : World σ}

theorem keeps_inWorld {act : StateM σ α} (h : Keeps p act) : Keeps (Standing p data) (inWorld act) :=
  fun state hs => ⟨h state.world hs.1, hs.2⟩

theorem keeps_act {act : StateM σ α} (h : Keeps p act) : Keeps (Standing p data) (Work.act act).run :=
  (keeps_inWorld h).bind fun _ => .pure _

theorem keeps_tell (severity : Log.Severity) (event : Log.Event) (fields : List (String × String)) :
    Keeps (Standing p data) (modify (·.tell severity event fields) : Work σ Unit).run := fun _ hs => hs

theorem keeps_workBind {q : State σ → Prop} {work : Work σ α} {next : α → Work σ β} (hwork : Keeps q work.run)
    (hnext : ∀ a, Keeps q (next a).run) : Keeps q (work >>= next).run := by
  rw [ExceptT.run_bind]
  refine hwork.bind fun result => ?_
  cases result with
  | error error => exact .pure _
  | ok a => exact hnext a

theorem keeps_stopIfTriggered (h : Keeps p world.isTriggered) :
    Keeps (Standing p data) (stopIfTriggered world).run := by
  refine keeps_workBind (keeps_act h) fun triggered => ?_
  cases triggered <;> exact .pure _

theorem keeps_load (h : world.ReadingMaintains p) (file : String) (shape : Shape α) :
    Keeps (Standing p data) (load world file shape).run := by
  refine keeps_workBind (keeps_stopIfTriggered h.isTriggered) fun _ => ?_
  refine keeps_workBind (keeps_act (h.read file)) fun bytes => ?_
  cases bytes with
  | error error => exact .pure _
  | ok bytes =>
    refine keeps_workBind (keeps_act (keeps_decodeUntil h.isTriggered shape bytes .empty)) fun decoded => ?_
    obtain ⟨records, registry⟩ := decoded
    cases records with
    | error cause => exact .pure _
    | ok records => exact keeps_workBind (keeps_tell _ _ _) fun _ => .pure _

theorem keeps_buildOne (hreplace : ∀ name documents, Keeps p (world.replace name documents)) (builder : Builder)
    (made : ClientData) : Keeps (Standing p data) (buildOne world builder made) := by
  rw [buildOne.eq_def]
  cases builder.build made with
  | error error => exact .pure _
  | ok documents =>
    refine (keeps_inWorld (hreplace builder.collection documents)).bind fun answer => ?_
    cases answer <;> exact .pure _

theorem keeps_runBuilders (hlook : Keeps p world.isTriggered)
    (hreplace : ∀ name documents, Keeps p (world.replace name documents)) (made : ClientData) (builders : List Builder) :
    Keeps (Standing p data) (runBuilders world made builders).run := by
  induction builders with
  | nil => exact .pure _
  | cons builder builders ih =>
    rw [runBuilders]
    refine keeps_workBind (keeps_stopIfTriggered hlook) fun _ => ?_
    refine keeps_workBind ((keeps_buildOne hreplace builder made).bind fun _ => .pure _) fun built => ?_
    cases built with
    | ok count =>
      exact keeps_workBind (keeps_tell _ _ _) fun _ => keeps_workBind ih fun _ => .pure _
    | error error =>
      exact keeps_workBind (keeps_tell _ _ _) fun _ => keeps_workBind ih fun _ => .pure _

/-! ## Cycles -/

/-- What keeps a property of the world whatever data are published keeps it. -/
theorem keeps_ofStanding {act : StateM (State σ) α} (h : ∀ data, Keeps (Standing p data) act) :
    Keeps (fun state => p state.world) act := fun state hs => (h state.cache state ⟨hs, rfl⟩).1

theorem keeps_repopulate (h : world.ReadingMaintains p) :
    Keeps (fun state => p state.world) (repopulate world).run := by
  have hload {γ : Type} (file : String) (shape : Shape γ) :
      Keeps (fun state => p state.world) (load world file shape).run :=
    keeps_ofStanding fun _ => keeps_load h file shape
  refine keeps_workBind (keeps_ofStanding fun _ => keeps_act h.now) fun started => ?_
  refine keeps_workBind (hload _ _) fun currency => ?_
  refine keeps_workBind (hload _ _) fun experience => ?_
  refine keeps_workBind (hload _ _) fun factions => ?_
  refine keeps_workBind (hload _ _) fun mappings => ?_
  exact fun state hs => hs

/-- What everything in the world keeps is kept by a whole cycle. -/
theorem keeps_runCycle (h : world.Maintains p) (builders : List Builder) :
    Keeps (fun state => p state.world) (runCycle world builders).run := by
  refine keeps_workBind (fun _ hs => hs) fun _ => ?_
  refine keeps_workBind (keeps_repopulate h.toReadingMaintains) fun made => ?_
  refine keeps_workBind ?_ fun report => fun _ hs => hs
  exact (keeps_ofStanding fun _ => keeps_runBuilders h.isTriggered h.replace made builders).bind fun _ => .pure _

end Work

/-! ## Runs -/

namespace Routine

variable {routine : Routine τ} {policy : Policy} {fuel failures : Nat} {s s' : τ} {moments : List (Moment τ)} {p : τ → Prop}

/-- What is told keeps what each entry keeps. -/
theorem Maintains.announce (h : routine.Maintains p) (entry : Option Log.Entry) : Keeps p (routine.announce entry) := by
  cases entry with
  | none => exact .pure ()
  | some entry => exact h.tell entry

/-- Ingestion keeps what everything in its world keeps. -/
theorem maintains_ingestion {world : World σ} {p : σ → Prop} (h : world.Maintains p) (builders : List Builder) :
    (ingestion world builders).Maintains fun state => p state.world where
  cycle := keeps_runCycle h builders
  isTriggered state := h.isTriggered state.world
  wait delay state := h.wait delay state.world
  tell _ _ hs := hs

/-- The property holds around a cycle, and when its end has been told. -/
theorem Maintains.cycled (h : routine.Maintains p) {s₁ s₂ s₃ : τ} {triggered : Bool}
    {result : Except IngestError BuildReport} {entry : Option Log.Entry} (look : routine.isTriggered s = (triggered, s₁))
    (cycle : routine.cycle s₁ = (result, s₂)) (announced : (routine.announce entry s₂).2 = s₃) (hs : p s) :
    p s₁ ∧ p s₂ ∧ p s₃ := by
  have h₁ := h.isTriggered s hs
  rw [look] at h₁
  have h₂ := h.cycle s₁ h₁
  rw [cycle] at h₂
  exact ⟨h₁, h₂, announced ▸ h.announce entry s₂ h₂⟩

/-- The property holds before and after each step of a pass, and in the end. -/
theorem Passed.maintains (h : routine.Maintains p) {pass : Pass} (passed : routine.Passed policy failures s moments pass s')
    (hs : p s) : (∀ moment ∈ moments, p moment.before ∧ p moment.after) ∧ p s' := by
  have hstop := h.tell ⟨.info, .ingestionStopped, []⟩
  cases passed with
  | calledOff look =>
    have h₁ := h.isTriggered s hs
    rw [look] at h₁
    exact ⟨by simp [hs, h₁], hstop _ h₁⟩
  | cancelled look cycle announced next =>
    obtain ⟨h₁, h₂, h₃⟩ := h.cycled look cycle announced hs
    exact ⟨by simp [hs, h₁, h₂], hstop _ h₃⟩
  | exhausted look cycle announced next =>
    obtain ⟨h₁, h₂, h₃⟩ := h.cycled look cycle announced hs
    exact ⟨by simp [hs, h₁, h₂], h₃⟩
  | @interrupted s₁ s₂ s₃ s₄ result count delay look cycle announced next wait =>
    obtain ⟨h₁, h₂, h₃⟩ := h.cycled look cycle announced hs
    have h₄ := h.wait delay s₃ h₃
    rw [wait] at h₄
    exact ⟨by simp [hs, h₁, h₂, h₃, h₄], hstop _ h₄⟩
  | @again s₁ s₂ s₃ s₄ result count delay look cycle announced next wait =>
    obtain ⟨h₁, h₂, h₃⟩ := h.cycled look cycle announced hs
    have h₄ := h.wait delay s₃ h₃
    rw [wait] at h₄
    exact ⟨by simp [hs, h₁, h₂, h₃, h₄], h₄⟩

/-- The property holds before and after each step of a run, and in the end. -/
theorem Ran.maintains (h : routine.Maintains p) {result : Option (Except IngestError Unit)}
    (ran : routine.Ran policy fuel failures s moments result s') (hs : p s) :
    (∀ moment ∈ moments, p moment.before ∧ p moment.after) ∧ p s' := by
  induction ran with
  | unfinished => exact ⟨fun _ hmoment => absurd hmoment List.not_mem_nil, hs⟩
  | finished passed => exact passed.maintains h hs
  | again passed rest ih =>
    obtain ⟨hpass, hpassed⟩ := passed.maintains h hs
    obtain ⟨hrest, hend⟩ := ih hpassed
    refine ⟨fun moment hmoment => ?_, hend⟩
    rcases List.mem_append.mp hmoment with hmoment | hmoment
    · exact hpass moment hmoment
    · exact hrest moment hmoment

end Routine

end SheetQuery.Ingest
