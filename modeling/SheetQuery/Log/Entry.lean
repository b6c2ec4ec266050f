import SheetQuery.Json.Order
import SheetQuery.Json.Writer
import SheetQuery.Log.Event
import SheetQuery.Sorting

/-!
# Log entries

An entry is one line that holds one object: the event, the severity, then the fields by their keys in ascending order. Of
fields with one key the last one counts, and so it does of a field that takes the key of the event or the severity.
-/

namespace SheetQuery.Log

/-- An event with what is told about it. -/
structure Entry where
  severity : Severity
  event : Event
  fields : List (String × String)
  deriving Repr, DecidableEq

namespace Entry

/-- The object of an entry. -/
def json (entry : Entry) : Json :=
  let sorted := stableSort (fun a b => (compareText a.1 b.1).isLT) entry.fields
  let members := ("event", entry.event.name) :: ("severity", entry.severity.name) :: sorted
  .obj (Members.ofList (members.map fun (key, value) => (key, .str value)))

/-- The line of an entry, with its end. -/
def line (entry : Entry) : String :=
  entry.json.compact ++ "\n"

end Entry

/-- The lines of the entries that are failures, or of those that are not, in order. -/
def lines (failures : Bool) (entries : List Entry) : List String :=
  (entries.filter fun entry => entry.severity.isFailure == failures).map Entry.line

end SheetQuery.Log
