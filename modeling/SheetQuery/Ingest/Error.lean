import SheetQuery.Sheet.Error

/-!
# Ingestion that fails

A cycle fails at a sheet that cannot be read or decoded, or is called off; a collection fails at data that is missing, at
its builder, or at the place where it is put. Ingestion as a whole fails after too many cycles in a row.
-/

namespace SheetQuery.Ingest

open Sheet

/-- Why ingestion, or a part of it, failed. -/
inductive IngestError where
  | missingSection (file : String)
  | decode (file : String) (cause : SheetError)
  | read (file reason : String)
  | publish (collection reason : String)
  | build (collection reason : String)
  | cancelled
  | retriesExhausted (failures : Nat)

namespace IngestError

/-- The wording of an error. -/
def message : IngestError → String
  | .missingSection file => "Missing upstream data: " ++ file
  | .decode file cause => "Failed to decode " ++ file ++ ": " ++ cause.message
  | .read file reason => "Failed to read " ++ file ++ ": " ++ reason
  | .publish collection reason => "Failed to publish collection " ++ collection ++ ": " ++ reason
  | .build collection reason => "Failed to build collection " ++ collection ++ ": " ++ reason
  | .cancelled => "Ingestion cancelled"
  | .retriesExhausted failures => "Ingestion stopped after " ++ toString failures ++ " consecutive failures"

/-- The error of a sheet. A sheet that was called off is no sheet at fault. -/
def ofSheet (file : String) (cause : SheetError) : IngestError :=
  match cause.fault.kind with
  | .cancelled => .cancelled
  | _ => .decode file cause

/-- Whether the cycle was called off. -/
def isCancelled : IngestError → Bool
  | .cancelled => true
  | _ => false

end IngestError

end SheetQuery.Ingest
