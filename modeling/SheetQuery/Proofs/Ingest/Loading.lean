import SheetQuery.Proofs.Ingest.Keeping
import SheetQuery.Proofs.Sheet.Requests

/-!
# Loading the sheets

A cycle loads the sheets of the client one after the other and publishes them together. If one cannot be loaded, the cycle ends
with the error of the first such sheet, the sheets before it having been loaded, and nothing has been published. A sheet cannot
be loaded if work is called off before it or between its lines, if it cannot be read, or if it is refused when it is read at once
(`load_eq_error_iff`); the shapes that have been prepared before make no difference (`loadWith_eq`).
-/

namespace SheetQuery.Ingest

open Sheet

variable {σ α β : Type}

/-! ## Work in a row -/

/-- After work that has been done comes what follows it. -/
theorem Work.bind_ok {work : Work σ α} {s s' : State σ} {a : α} (h : work.run s = (.ok a, s')) (next : α → Work σ β) :
    (work >>= next).run s = (next a).run s' := by
  rw [ExceptT.run_bind, bind_apply h]

/-- After work that failed comes nothing. -/
theorem Work.bind_error {work : Work σ α} {s s' : State σ} {error : IngestError} (h : work.run s = (.error error, s'))
    (next : α → Work σ β) : (work >>= next).run s = (.error error, s') := by
  rw [ExceptT.run_bind, bind_apply h]
  rfl

/-- What happens in the world does not fail. -/
theorem act_apply (act : StateM σ α) (s : State σ) : (Work.act act).run s = (.ok (act s.world).1, (inWorld act s).2) :=
  rfl

theorem tell_apply (severity : Log.Severity) (event : Log.Event) (fields : List (String × String)) (s : State σ) :
    (modify (·.tell severity event fields) : Work σ Unit).run s = (.ok (), s.tell severity event fields) :=
  rfl

theorem lift_apply {act : StateM (State σ) α} {s s' : State σ} {a : α} (h : act s = (a, s')) :
    (ExceptT.lift act : Work σ α).run s = (.ok a, s') := by
  have hrun : (ExceptT.lift act : Work σ α).run s = (.ok (act s).1, (act s).2) := rfl
  rw [hrun, h]

/-! ## Sheets -/

/-- A sheet of the client. -/
inductive ClientSheet where
  | currency
  | experience
  | factions
  | imageSetMappings

namespace ClientSheet

/-- The sheets in the order in which they are loaded. -/
def all : List ClientSheet :=
  [currency, experience, factions, imageSetMappings]

/-- The name of the file of the sheet. -/
def fileName : ClientSheet → String
  | currency => Currency.fileName
  | experience => Experience.fileName
  | factions => Faction.fileName
  | imageSetMappings => ImageSetMapping.fileName

/-- Loads the sheet, whatever its records are. -/
def load (world : World σ) : ClientSheet → Work σ Unit
  | currency => discard (Ingest.load world Currency.fileName Currency.shape)
  | experience => discard (Ingest.load world Experience.fileName Experience.shape)
  | factions => discard (Ingest.load world Faction.fileName Faction.shape)
  | imageSetMappings => discard (Ingest.load world ImageSetMapping.fileName ImageSetMapping.shape)

end ClientSheet

theorem discard_ok {work : Work σ α} {s s' : State σ} {a : α} (h : work.run s = (.ok a, s')) :
    (discard work).run s = (.ok (), s') :=
  Work.bind_ok h fun _ => pure ()

theorem discard_error {work : Work σ α} {s s' : State σ} {error : IngestError} (h : work.run s = (.error error, s')) :
    (discard work).run s = (.error error, s') :=
  Work.bind_error h fun _ => pure ()

theorem run_of_discard_error {work : Work σ α} {s s' : State σ} {error : IngestError}
    (h : (discard work).run s = (.error error, s')) : work.run s = (.error error, s') := by
  cases hwork : work.run s with
  | mk result s₁ =>
  cases result with
  | error other =>
    rw [discard_error hwork] at h
    obtain ⟨herror, rfl⟩ := Prod.mk.inj h
    rw [Except.error.inj herror]
  | ok a =>
    rw [discard_ok hwork] at h
    nomatch (Prod.mk.inj h).1

/-- Sheets have been loaded, one after the other. -/
inductive Loaded (world : World σ) : List ClientSheet → State σ → State σ → Prop
  | nil (s : State σ) : Loaded world [] s s
  | cons {sheet : ClientSheet} {sheets : List ClientSheet} {s s₁ s' : State σ} (load : (sheet.load world).run s = (.ok (), s₁))
    (rest : Loaded world sheets s₁ s') : Loaded world (sheet :: sheets) s s'

/-- What reading keeps is kept while sheets are loaded, and so are the data that are published. -/
theorem keeps_sheetLoad {world : World σ} {p : σ → Prop} (h : world.ReadingMaintains p) (data : ClientData)
    (sheet : ClientSheet) : Keeps (Standing p data) (sheet.load world).run := by
  cases sheet <;> exact keeps_workBind (keeps_load h _ _) fun _ => .pure _

theorem Loaded.standing {world : World σ} {p : σ → Prop} (h : world.ReadingMaintains p) {data : ClientData}
    {sheets : List ClientSheet} {s s' : State σ} (loaded : Loaded world sheets s s') (hs : Standing p data s) :
    Standing p data s' := by
  induction loaded with
  | nil => exact hs
  | @cons sheet _ s _ _ load rest ih =>
    have hload := keeps_sheetLoad h data sheet s hs
    rw [load] at hload
    exact ih hload

/-- Of the sheets in their order this is the first that could not be loaded, and why. -/
def FailsAt (world : World σ) (sheet : ClientSheet) (error : IngestError) (s s' : State σ) : Prop :=
  ∃ before later s₁, ClientSheet.all = before ++ sheet :: later ∧ Loaded world before s s₁ ∧
    (sheet.load world).run s₁ = (.error error, s')

theorem FailsAt.standing {world : World σ} {p : σ → Prop} (h : world.ReadingMaintains p) {data : ClientData}
    {sheet : ClientSheet} {error : IngestError} {s s' : State σ} (fails : FailsAt world sheet error s s')
    (hs : Standing p data s) : Standing p data s' := by
  obtain ⟨before, later, s₁, -, loaded, hload⟩ := fails
  have hkept := keeps_sheetLoad h data sheet s₁ (loaded.standing h hs)
  rw [hload] at hkept
  exact hkept

/-! ## Errors -/

/-- The sheet that an error of reading or decoding names. -/
def IngestError.sheet? : IngestError → Option String
  | .read file _ => some file
  | .decode file _ => some file
  | .missingSection _ | .publish _ _ | .build _ _ | .cancelled | .retriesExhausted _ => none

theorem ofSheet_cases (file : String) (cause : SheetError) :
    IngestError.ofSheet file cause = .cancelled ∨ IngestError.ofSheet file cause = .decode file cause := by
  rw [IngestError.ofSheet]
  split
  · exact .inl rfl
  · exact .inr rfl

/-- Work that has been called off ends where it looks for that, and other work goes on. -/
theorem stopIfTriggered_apply {world : World σ} {s : State σ} {triggered : Bool} {w : σ}
    (look : world.isTriggered s.world = (triggered, w)) :
    (stopIfTriggered world).run s = (if triggered then .error .cancelled else .ok (), { s with world := w }) := by
  have hlook : inWorld world.isTriggered s = (triggered, { s with world := w }) := by rw [inWorld, look]
  rw [stopIfTriggered, Work.act, Work.bind_ok (lift_apply hlook)]
  cases triggered <;> rfl

/-- Loading a sheet, step by step: after a look whether work is called off the file is read, and then decoded while the look is
repeated. -/
theorem loadWith_apply (registry : Registry) (world : World σ) (file : String) (shape : Shape α) (s : State σ) :
    (loadWith registry world file shape).run s =
      match world.isTriggered s.world with
      | (true, w) => (.error .cancelled, { s with world := w })
      | (false, w) =>
        match world.read file w with
        | (.error error, w') => (.error error, { s with world := w' })
        | (.ok bytes, w') =>
          match decodeUntil world.isTriggered shape bytes registry w' with
          | ((.error cause, _), w'') => (.error (.ofSheet file cause), { s with world := w'' })
          | ((.ok records, _), w'') =>
            (.ok records, State.tell { s with world := w'' } .info .datasheetLoaded
              [("file", file), ("records", toString records.length)]) := by
  rw [loadWith]
  cases hlook : world.isTriggered s.world with
  | mk triggered w =>
  have hstop := stopIfTriggered_apply hlook
  cases triggered with
  | true => exact Work.bind_error hstop _
  | false =>
    rw [Work.bind_ok hstop, Work.bind_ok (act_apply (world.read file) _)]
    simp only [inWorld]
    cases world.read file w with
    | mk answer w' =>
    cases answer with
    | error error => rfl
    | ok bytes =>
      rw [Work.bind_ok (act_apply _ _)]
      simp only [inWorld]
      cases decodeUntil world.isTriggered shape bytes registry w' with
      | mk decoded w'' =>
      obtain ⟨_ | records, _⟩ := decoded <;> rfl

/-- What is loaded is the same whatever shapes have been prepared before. -/
theorem loadWith_eq {registry : Registry} (hv : registry.Valid) (world : World σ) (file : String) (shape : Shape α) :
    (loadWith registry world file shape).run = (load world file shape).run := by
  funext s
  rw [load, loadWith_apply, loadWith_apply]
  cases world.isTriggered s.world with
  | mk triggered w =>
  cases triggered with
  | true => rfl
  | false =>
    dsimp only
    cases world.read file w with
    | mk answer w' =>
    cases answer with
    | error error => rfl
    | ok bytes =>
      dsimp only
      have htransparent := decodeUntil_transparent hv world.isTriggered shape bytes w'
      revert htransparent
      obtain ⟨⟨result, _⟩, w''⟩ := decodeUntil world.isTriggered shape bytes registry w'
      obtain ⟨⟨result', _⟩, w₁⟩ := decodeUntil world.isTriggered shape bytes .empty w'
      rintro ⟨rfl, rfl⟩
      cases result <;> rfl

/-- Why a sheet is not loaded, and what has happened in the world by then. -/
inductive LoadFails (world : World σ) (file : String) (shape : Shape α) (s : State σ) : IngestError → State σ → Prop
  /-- Work has been called off before the sheet is read. -/
  | calledOff {w : σ} (look : world.isTriggered s.world = (true, w)) :
    LoadFails world file shape s .cancelled { s with world := w }
  /-- The file cannot be read. -/
  | unread {w w' : σ} {error : IngestError} (look : world.isTriggered s.world = (false, w))
    (read : world.read file w = (.error error, w')) : LoadFails world file shape s error { s with world := w' }
  /-- Work has been called off between two lines. -/
  | interrupted {w w' w'' : σ} {bytes : List UInt8} {line : Nat} {registry : Registry}
    (look : world.isTriggered s.world = (false, w)) (read : world.read file w = (.ok bytes, w'))
    (decode : decodeUntil world.isTriggered shape bytes .empty w' =
      ((.error (.ofFault (.cancelled shape.declaration.shape line)), registry), w'')) :
    LoadFails world file shape s .cancelled { s with world := w'' }
  /-- The sheet is refused as it is when it is read at once. -/
  | undecoded {w w' w'' : σ} {bytes : List UInt8} {cause : SheetError} {registry : Registry}
    (look : world.isTriggered s.world = (false, w)) (read : world.read file w = (.ok bytes, w'))
    (decode : decodeUntil world.isTriggered shape bytes .empty w' = ((.error cause, registry), w''))
    (refused : (decodeAll shape bytes .empty).1 = .error cause) :
    LoadFails world file shape s (.ofSheet file cause) { s with world := w'' }

/-- A sheet is not loaded exactly for one of these reasons. -/
theorem load_eq_error_iff {world : World σ} {file : String} {shape : Shape α} {error : IngestError} {s s' : State σ} :
    (load world file shape).run s = (.error error, s') ↔ LoadFails world file shape s error s' := by
  rw [load, loadWith_apply]
  constructor
  · intro h
    split at h
    · rename_i w look
      cases h
      exact .calledOff look
    · rename_i w look
      split at h
      · rename_i reason w' read
        cases h
        exact .unread look read
      · rename_i bytes w' read
        split at h
        · rename_i cause registry w'' decode
          cases h
          rcases cancelled_or_of_decodeUntil (congrArg (·.1.1) decode) with ⟨line, rfl⟩ | refused
          · exact .interrupted look read decode
          · exact .undecoded look read decode refused
        · nomatch (Prod.mk.inj h).1
  · rintro (look | ⟨look, read⟩ | ⟨look, read, decode⟩ | ⟨look, read, decode, -⟩)
    · rw [look]
    · rw [look]
      dsimp only
      rw [read]
    · rw [look]
      dsimp only
      rw [read]
      dsimp only
      rw [decode]
      rfl
    · rw [look]
      dsimp only
      rw [read]
      dsimp only
      rw [decode]

/-- Why a sheet of the client is not loaded. -/
def ClientSheet.LoadFails (world : World σ) (s : State σ) : ClientSheet → IngestError → State σ → Prop
  | currency => Ingest.LoadFails world Currency.fileName Currency.shape s
  | experience => Ingest.LoadFails world Experience.fileName Experience.shape s
  | factions => Ingest.LoadFails world Faction.fileName Faction.shape s
  | imageSetMappings => Ingest.LoadFails world ImageSetMapping.fileName ImageSetMapping.shape s

theorem sheetLoad_eq_error_iff {world : World σ} {sheet : ClientSheet} {error : IngestError} {s s' : State σ} :
    (sheet.load world).run s = (.error error, s') ↔ sheet.LoadFails world s error s' := by
  cases sheet <;> exact ⟨fun h => load_eq_error_iff.1 (run_of_discard_error h), fun h => discard_error (load_eq_error_iff.2 h)⟩

/-- The first sheet that could not be loaded could not be read or decoded, or work was called off at it. -/
theorem failsAt_iff {world : World σ} {sheet : ClientSheet} {error : IngestError} {s s' : State σ} :
    FailsAt world sheet error s s' ↔ ∃ before later s₁, ClientSheet.all = before ++ sheet :: later ∧
      Loaded world before s s₁ ∧ sheet.LoadFails world s₁ error s' := by
  simp only [FailsAt, sheetLoad_eq_error_iff]

/-- Loading a sheet fails when work has been called off, or with what reading it gave, or because it cannot be decoded. -/
theorem LoadFails.error_cases {world : World σ} {file : String} {shape : Shape α} {error : IngestError} {s s' : State σ}
    (h : LoadFails world file shape s error s') :
    error = .cancelled ∨ (∃ w, (world.read file w).1 = .error error) ∨ ∃ cause, error = .decode file cause := by
  cases h with
  | calledOff => exact .inl rfl
  | unread _ read => exact .inr (.inl ⟨_, congrArg Prod.fst read⟩)
  | interrupted => exact .inl rfl
  | @undecoded _ _ _ _ cause => exact (ofSheet_cases file cause).imp_right fun hdecode => .inr ⟨cause, hdecode⟩

/-- The sheet that an error of reading or decoding names is the first that could not be loaded, if reading names no other file
than the one it was to read. -/
theorem FailsAt.named {world : World σ} {sheet : ClientSheet} {error : IngestError} {s s' : State σ}
    (fails : FailsAt world sheet error s s')
    (hread : ∀ file w error named, (world.read file w).1 = .error error → error.sheet? = some named → named = file)
    {named : String} (hnamed : error.sheet? = some named) : named = sheet.fileName := by
  obtain ⟨-, -, s₁, -, -, hload⟩ := failsAt_iff.1 fails
  have hcases : error = .cancelled ∨ (∃ w, (world.read sheet.fileName w).1 = .error error) ∨
      ∃ cause, error = .decode sheet.fileName cause := by
    cases sheet <;> exact hload.error_cases
  rcases hcases with rfl | ⟨w, hw⟩ | ⟨cause, rfl⟩
  · nomatch hnamed
  · exact hread _ w error named hw hnamed
  · exact (Option.some.inj hnamed).symm

/-! ## All sheets -/

/-- Sheets are published together when the last has been loaded, and not at all if one could not be. -/
theorem repopulate_cases (world : World σ) (s : State σ) :
    (∃ sheet error s', FailsAt world sheet error (inWorld world.now s).2 s' ∧
      (repopulate world).run s = (.error error, s')) ∨
    ∃ data s', Loaded world ClientSheet.all (inWorld world.now s).2 s' ∧
      ∃ told, (repopulate world).run s = (.ok data, { s' with cache := data, log := told }) := by
  rw [repopulate, Work.bind_ok (act_apply world.now s)]
  generalize (inWorld world.now s).2 = s₀
  cases h₁ : (load world Currency.fileName Currency.shape).run s₀ with
  | mk currency s₁ =>
  cases currency with
  | error error =>
    exact .inl ⟨.currency, error, s₁, ⟨[], _, s₀, rfl, .nil s₀, discard_error h₁⟩, Work.bind_error h₁ _⟩
  | ok currency =>
  rw [Work.bind_ok h₁]
  have loaded₁ {sheets : List ClientSheet} {s' : State σ} (h : Loaded world sheets s₁ s') :
      Loaded world (.currency :: sheets) s₀ s' := .cons (discard_ok h₁) h
  cases h₂ : (load world Experience.fileName Experience.shape).run s₁ with
  | mk experience s₂ =>
  cases experience with
  | error error =>
    exact .inl ⟨.experience, error, s₂, ⟨[_], _, s₁, rfl, loaded₁ (.nil s₁), discard_error h₂⟩, Work.bind_error h₂ _⟩
  | ok experience =>
  rw [Work.bind_ok h₂]
  have loaded₂ {sheets : List ClientSheet} {s' : State σ} (h : Loaded world sheets s₂ s') :
      Loaded world (.currency :: .experience :: sheets) s₀ s' := loaded₁ (.cons (discard_ok h₂) h)
  cases h₃ : (load world Faction.fileName Faction.shape).run s₂ with
  | mk factions s₃ =>
  cases factions with
  | error error =>
    exact .inl ⟨.factions, error, s₃, ⟨[_, _], _, s₂, rfl, loaded₂ (.nil s₂), discard_error h₃⟩, Work.bind_error h₃ _⟩
  | ok factions =>
  rw [Work.bind_ok h₃]
  have loaded₃ {sheets : List ClientSheet} {s' : State σ} (h : Loaded world sheets s₃ s') :
      Loaded world (.currency :: .experience :: .factions :: sheets) s₀ s' := loaded₂ (.cons (discard_ok h₃) h)
  cases h₄ : (load world ImageSetMapping.fileName ImageSetMapping.shape).run s₃ with
  | mk mappings s₄ =>
  cases mappings with
  | error error =>
    exact .inl ⟨.imageSetMappings, error, s₄, ⟨[_, _, _], _, s₃, rfl, loaded₃ (.nil s₃), discard_error h₄⟩,
      Work.bind_error h₄ _⟩
  | ok mappings =>
  rw [Work.bind_ok h₄]
  exact .inr ⟨_, s₄, loaded₃ (.cons (discard_ok h₄) (.nil s₄)), _, rfl⟩

end SheetQuery.Ingest
