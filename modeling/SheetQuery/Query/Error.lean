/-!
# Requests that cannot be compiled

All of these are the fault of the request: what it names does not exist, or its text cannot be read.
-/

namespace SheetQuery.Query

/-- Why a request cannot be compiled. -/
inductive QueryError where
  | unknownCollection (name : String)
  | unknownField (collection field : String)
  | invalidControl (param value : String)
  | unknownControl (param : String)
  | invalidOperand (field operand expected : String)
  deriving Repr, DecidableEq

namespace QueryError

/-- The wording of an error. -/
def message : QueryError → String
  | .unknownCollection name => "Collection not found: " ++ name
  | .unknownField collection field => "Unknown field '" ++ field ++ "' on collection " ++ collection
  | .invalidControl param value => "Invalid value '" ++ value ++ "' for control parameter c:" ++ param
  | .unknownControl param => "Unknown control parameter: c:" ++ param
  | .invalidOperand field operand expected =>
    "Invalid operand '" ++ operand ++ "' for field '" ++ field ++ "': expected " ++ expected

/-- The status of the answer to a request with this error: only a collection can be missing. -/
def status : QueryError → Nat
  | .unknownCollection _ => 404
  | _ => 400

end QueryError

end SheetQuery.Query
