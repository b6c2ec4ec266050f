/-!
# Plans that cannot be run

A plan fails at a store that cannot answer, at one that does not take it, at a collection that has not been built yet, or
at a pattern that is refused.
-/

namespace SheetQuery

/-- A pattern that is refused, and why. -/
structure PatternFault where
  pattern : String
  reason : String
  deriving Repr, DecidableEq

/-- Why a plan was not run. -/
inductive StoreError where
  | unavailable (reason : String)
  | rejected (reason : String)
  | collectionUnavailable (name : String)
  | unsupportedPattern (fault : PatternFault)
  deriving Repr, DecidableEq

namespace StoreError

/-- The wording of an error. -/
def message : StoreError → String
  | .unavailable reason => "Document store unavailable: " ++ reason
  | .rejected reason => "Plan rejected by the document store: " ++ reason
  | .collectionUnavailable name => "Collection not yet available: " ++ name
  | .unsupportedPattern fault => "Unsupported pattern '" ++ fault.pattern ++ "': " ++ fault.reason

/-- The status of the answer: what may come later is unavailable, and a pattern is the fault of the request. -/
def status : StoreError → Nat
  | .unavailable _ => 503
  | .rejected _ => 500
  | .collectionUnavailable _ => 503
  | .unsupportedPattern _ => 400

end StoreError

end SheetQuery
