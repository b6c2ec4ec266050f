import SheetQuery.Config
import SheetQuery.Ingest.Cycle

/-!
# The worker

Cycles follow each other: after a success when it is time to refresh, after a failure when it is time to try again. Too
many failures in a row end the work for good, with no further delay. Calling it off ends it in good order, before a cycle,
within one, or while waiting.
-/

namespace SheetQuery.Ingest

/-- The pace of the worker; delays are in milliseconds. -/
structure Policy where
  retryDelay : Nat
  /-- How many cycles may fail in a row, the last of which ends the work. -/
  maxFailures : UInt32
  refreshInterval : Nat
  deriving Repr, DecidableEq

/-- The pace that a configuration sets. -/
def Policy.ofConfig (config : IngestionConfig) : Policy :=
  ⟨config.retryDelay.toNat * 1000, config.maxFailures, config.refreshInterval.toNat * 1000⟩

/-- What the end of a cycle leads to. -/
inductive Next where
  /-- Another cycle after a delay, when so many have failed in a row. -/
  | again (failures delay : Nat)
  | stop
  | giveUp (failures : Nat)
  deriving Repr, DecidableEq

/-- What the end of a cycle leads to, when so many cycles before it have failed in a row. -/
def Policy.next (policy : Policy) (failures : Nat) : Except IngestError BuildReport → Next
  | .ok _ => .again 0 policy.refreshInterval
  | .error error =>
    if error.isCancelled then .stop
    else if policy.maxFailures.toNat ≤ failures + 1 then .giveUp (failures + 1)
    else .again (failures + 1) policy.retryDelay

/-- What the worker does over and over, in whatever world that is. -/
structure Routine (τ : Type) where
  cycle : StateM τ (Except IngestError BuildReport)
  /-- Whether work has been called off. -/
  isTriggered : StateM τ Bool
  /-- Lets so many milliseconds pass, and tells whether work was called off meanwhile. -/
  wait : Nat → StateM τ Bool
  tell : Log.Entry → StateM τ Unit

variable {τ : Type}

/-- What is told of the end of a cycle. -/
def Policy.announcement? (policy : Policy) (failures : Nat) (result : Except IngestError BuildReport) : Option Log.Entry :=
  match result, policy.next failures result with
  | .ok report, _ =>
    some ⟨.info, .ingestionCycleComplete,
      [("built", toString report.built.length), ("failed", toString report.failed.length)]⟩
  | .error error, .giveUp failures =>
    some ⟨.fatal, .ingestionRetriesExhausted, [("error", error.message), ("failures", toString failures)]⟩
  | .error error, .again failures _ =>
    some ⟨.error, .ingestionCycleFailed,
      [("error", error.message), ("failures", toString failures),
        ("retry_in_secs", toString (policy.retryDelay / 1000))]⟩
  | .error _, .stop => none

namespace Routine

/-- The end of the work in good order. -/
def stop (routine : Routine τ) : StateM τ (Option (Except IngestError Unit)) := do
  routine.tell ⟨.info, .ingestionStopped, []⟩
  return some (.ok ())

/-- Runs cycles, at most as many as `fuel`, when so many before them have failed in a row. There is no result if the work
could still go on. -/
def runFrom (routine : Routine τ) (policy : Policy) : Nat → Nat → StateM τ (Option (Except IngestError Unit))
  | 0, _ => return none
  | fuel + 1, failures => do
    if ← routine.isTriggered then routine.stop
    else
      let result ← routine.cycle
      match policy.announcement? failures result with
      | some entry => routine.tell entry
      | none => pure ()
      match policy.next failures result with
      | .stop => routine.stop
      | .giveUp failures => return some (.error (.retriesExhausted failures))
      | .again failures delay =>
        if ← routine.wait delay then routine.stop else routine.runFrom policy fuel failures

/-- Runs at most as many cycles as `fuel`. -/
def run (routine : Routine τ) (policy : Policy) (fuel : Nat) : StateM τ (Option (Except IngestError Unit)) :=
  routine.runFrom policy fuel 0

/-- Ingestion in a world, with the builders of the collections. -/
def ingestion {σ : Type} (world : World σ) (builders : List Builder) : Routine (State σ) where
  cycle := (runCycle world builders).run
  isTriggered := inWorld world.isTriggered
  wait delay := inWorld (world.wait delay)
  tell entry := modify fun state => { state with log := state.log ++ [entry] }

end Routine

end SheetQuery.Ingest
