import SheetQuery.Ingest.Worker
import SheetQuery.Store.Basic

/-!
# Rehearsals

Ingestion of sheets that are known beforehand, into a store in memory, on a clock that moves only while the worker waits.
Each time the first of the sheets is asked for, a cycle has begun, which can have sheets of its own. Work can be called
off at a time, or while a sheet is read.
-/

namespace SheetQuery.Ingest

open Sheet

/-- The bytes of files by their names, or why they cannot be read. -/
abbrev Sheets := Members (Except String (List UInt8))

/-- What is fixed for a rehearsal. -/
structure Script where
  /-- Why a file cannot be read that is not among the sheets. -/
  missing : String
  /-- The collections that are not taken, and why. -/
  refused : List String
  refusal : String
  /-- The time of day, whatever the clock says. -/
  time : String
  /-- The read during which work is called off, counting from one. -/
  stopAtRead : Option Nat
  /-- The time on the clock at which work is called off. -/
  stopAt : Option Nat

/-- Where a rehearsal stands. -/
structure Rehearsal where
  sheets : Sheets
  /-- The sheets of the cycles to come. When there are none left, the sheets stay. -/
  upcoming : List Sheets
  /-- The files read so far, each with its time. -/
  reads : List (String × Nat)
  clock : Nat
  stopped : Bool
  store : Store

namespace Rehearsal

/-- A rehearsal before anything has happened. -/
def start (sheets : Sheets) (upcoming : List Sheets) (store : Store) : Rehearsal :=
  ⟨sheets, upcoming, [], 0, false, store⟩

/-- The sheets are those of the next cycle. -/
def beginCycle (rehearsal : Rehearsal) : Rehearsal :=
  match rehearsal.upcoming with
  | [] => rehearsal
  | sheets :: upcoming => { rehearsal with sheets := sheets, upcoming := upcoming }

/-- A file is read. -/
def read (script : Script) (file : String) : StateM Rehearsal (Except IngestError (List UInt8)) := fun before =>
  let current := if file = Currency.fileName then before.beginCycle else before
  let reads := current.reads ++ [(file, current.clock)]
  let stops := match script.stopAtRead with
    | some n => n ≤ reads.length
    | none => false
  (((Members.get? file current.sheets).getD (.error script.missing)).mapError (.read file),
    { current with reads := reads, stopped := current.stopped || stops })

/-- A collection is taken, or refused. -/
def replace (script : Script) (name : String) (documents : List Json) :
    StateM Rehearsal (Except IngestError Unit) := fun rehearsal =>
  if script.refused.contains name then (.error (.publish name script.refusal), rehearsal)
  else (.ok (), { rehearsal with store := rehearsal.store.insert name documents })

/-- The clock is never waited on for longer than this at a time: thirty years of 365 days. -/
def longestWait : Nat := 30 * 365 * 24 * 60 * 60 * 1000

/-- Time passes. Work that is called off before the delay has passed is called off at once; no time at all leaves no
room for that. -/
def wait (script : Script) (delay : Nat) : StateM Rehearsal Bool := fun rehearsal =>
  let wakes := rehearsal.clock + min delay longestWait
  if rehearsal.stopped then (true, rehearsal)
  else
    match script.stopAt with
    | some time =>
      let time := min time longestWait
      if time < wakes then (true, { rehearsal with clock := max rehearsal.clock time, stopped := true })
      else (false, { rehearsal with clock := wakes })
    | none => (false, { rehearsal with clock := wakes })

/-- The world of a rehearsal. -/
def world (script : Script) : World Rehearsal where
  read := read script
  isTriggered := fun rehearsal => (rehearsal.stopped, rehearsal)
  replace := replace script
  now := pure script.time
  wait := wait script

end Rehearsal

end SheetQuery.Ingest
