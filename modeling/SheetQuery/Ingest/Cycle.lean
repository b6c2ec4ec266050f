import SheetQuery.Ingest.Builder
import SheetQuery.Log.Entry

/-!
# Cycles

A cycle reads and decodes all sheets, then builds all collections. Until the last sheet is decoded nothing is published;
one collection that cannot be built does not hold back the others. Before each sheet, between the lines of each, and
before each collection the cycle looks whether it is called off. When it has published data it forgets them in the end.
-/

namespace SheetQuery.Ingest

open Sheet

/-- What ingestion works with, apart from what it knows itself. -/
structure World (σ : Type) where
  /-- The bytes of a file, or why there are none. -/
  read : String → StateM σ (Except IngestError (List UInt8))
  /-- Whether work has been called off. -/
  isTriggered : StateM σ Bool
  /-- Puts a collection where it can be queried, in the place of any of its name. -/
  replace : String → List Json → StateM σ (Except IngestError Unit)
  /-- The time of day, written out. -/
  now : StateM σ String
  /-- Lets so many milliseconds pass, and tells whether work was called off meanwhile. -/
  wait : Nat → StateM σ Bool

/-- Where ingestion stands. -/
structure State (σ : Type) where
  world : σ
  /-- The data that are published to the builders. -/
  cache : ClientData
  log : List Log.Entry

variable {σ : Type}

namespace State

/-- The state with an entry more in the log. -/
def tell (state : State σ) (severity : Log.Severity) (event : Log.Event) (fields : List (String × String)) : State σ :=
  { state with log := state.log ++ [⟨severity, event, fields⟩] }

/-- The state with a snapshot published. -/
def publish (state : State σ) (data : ClientData) : State σ :=
  { state with cache := data }

end State

/-- Something that happens in the world. -/
def inWorld {α : Type} (act : StateM σ α) : StateM (State σ) α := fun state =>
  let (result, world) := act state.world
  (result, { state with world := world })

/-- A piece of work that can fail, and leaves what it has done when it does. -/
abbrev Work (σ α : Type) := ExceptT IngestError (StateM (State σ)) α

/-- Something that happens in the world as a part of the work. -/
def Work.act {α : Type} (act : StateM σ α) : Work σ α :=
  ExceptT.lift (inWorld act)

/-- Ends the work if it has been called off. -/
def stopIfTriggered (world : World σ) : Work σ Unit := do
  if ← Work.act world.isTriggered then throw .cancelled

/-- The records of one sheet, when some shapes have been prepared before. -/
def loadWith {α : Type} (registry : Registry) (world : World σ) (file : String) (shape : Shape α) : Work σ (List α) := do
  stopIfTriggered world
  match ← Work.act (world.read file) with
  | .error error => throw error
  | .ok bytes =>
    match (← Work.act (decodeUntil world.isTriggered shape bytes registry)).1 with
    | .error cause => throw (.ofSheet file cause)
    | .ok records =>
      modify (·.tell .info .datasheetLoaded [("file", file), ("records", toString records.length)])
      return records

/-- The records of one sheet. They are the same whatever shapes have been prepared before, so that every sheet can begin as if
there were none. -/
def load {α : Type} (world : World σ) (file : String) (shape : Shape α) : Work σ (List α) :=
  loadWith .empty world file shape

/-- Decodes all sheets, and publishes them when all have been decoded. -/
def repopulate (world : World σ) : Work σ ClientData := do
  let started ← Work.act world.now
  let currency ← load world Currency.fileName Currency.shape
  let experience ← load world Experience.fileName Experience.shape
  let factions ← load world Faction.fileName Faction.shape
  let mappings ← load world ImageSetMapping.fileName ImageSetMapping.shape
  let data : ClientData := ⟨some currency, some experience, some factions, some mappings, some started⟩
  modify (·.publish data)
  modify (·.tell .info .clientDataPublished [("populated_at", started)])
  return data

/-- Makes one collection and puts it in its place; the answer is the number of its documents. -/
def buildOne (world : World σ) (builder : Builder) (data : ClientData) : StateM (State σ) (Except IngestError Nat) :=
  match builder.build data with
  | .error error => return .error error
  | .ok documents => do
    match ← inWorld (world.replace builder.collection documents) with
    | .error error => return .error error
    | .ok () => return .ok documents.length

/-- Builds collections one after the other. -/
def runBuilders (world : World σ) (data : ClientData) : List Builder → Work σ BuildReport
  | [] => return ⟨[], []⟩
  | builder :: builders => do
    stopIfTriggered world
    match ← ExceptT.lift (buildOne world builder data) with
    | .ok count =>
      modify (·.tell .info .collectionBuilt [("collection", builder.collection), ("documents", toString count)])
      let report ← runBuilders world data builders
      return { report with built := builder.collection :: report.built }
    | .error error =>
      modify (·.tell .error .collectionBuildFailed [("collection", builder.collection), ("error", error.message)])
      let report ← runBuilders world data builders
      return { report with failed := builder.collection :: report.failed }

/-- One cycle. The data are forgotten also when building has been called off. -/
def runCycle (world : World σ) (builders : List Builder) : Work σ BuildReport := do
  modify (·.tell .info .ingestionCycleBegin [])
  let data ← repopulate world
  let report ← ExceptT.lift (runBuilders world data builders).run
  modify (·.publish .empty)
  ExceptT.mk (pure report)

end SheetQuery.Ingest
