/-!
# Events

Every line of the log tells one of these events, with a severity. Failures are told apart from all else by where they are
written.
-/

namespace SheetQuery.Log

/-- How grave an event is. -/
inductive Severity where
  | trace | info | warn | error | fatal
  deriving Repr, DecidableEq

namespace Severity

/-- The name of a severity. -/
def name : Severity → String
  | .trace => "TRACE"
  | .info => "INFO"
  | .warn => "WARN"
  | .error => "ERROR"
  | .fatal => "FATAL"

/-- Whether events of this severity are failures, which are written to the stream for errors. -/
def isFailure : Severity → Bool
  | .error | .fatal => true
  | _ => false

end Severity

/-- What can happen. -/
inductive Event where
  | bootStart | configLoaded | serving | shutdownStart | shutdownComplete
  | ingestionCycleBegin | datasheetLoaded | clientDataPublished | collectionBuilt | collectionBuildFailed
  | ingestionCycleComplete | ingestionCycleFailed | ingestionRetriesExhausted | ingestionStopped
  | queryPlanned | queryRejected | queryExecuted
  deriving Repr, DecidableEq

namespace Event

/-- The name of an event. -/
def name : Event → String
  | .bootStart => "CENSUS_STARTUP_BEGIN"
  | .configLoaded => "CONFIG_LOADED"
  | .serving => "CENSUS_SERVING"
  | .shutdownStart => "SHUTDOWN_START"
  | .shutdownComplete => "SHUTDOWN_COMPLETE"
  | .ingestionCycleBegin => "INGESTION_CYCLE_BEGIN"
  | .datasheetLoaded => "DATASHEET_LOADED"
  | .clientDataPublished => "CLIENT_DATA_PUBLISHED"
  | .collectionBuilt => "COLLECTION_BUILT"
  | .collectionBuildFailed => "COLLECTION_BUILD_FAILED"
  | .ingestionCycleComplete => "INGESTION_CYCLE_COMPLETE"
  | .ingestionCycleFailed => "INGESTION_CYCLE_FAILED"
  | .ingestionRetriesExhausted => "INGESTION_RETRIES_EXHAUSTED"
  | .ingestionStopped => "INGESTION_STOPPED"
  | .queryPlanned => "QUERY_PLANNED"
  | .queryRejected => "QUERY_REJECTED"
  | .queryExecuted => "QUERY_EXECUTED"

/-- Whether an event ends the work that it tells of. -/
def isFatal : Event → Bool
  | .ingestionRetriesExhausted => true
  | _ => false

end Event

end SheetQuery.Log
