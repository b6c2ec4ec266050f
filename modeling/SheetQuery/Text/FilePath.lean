import SheetQuery.Text.Split

/-!
# Paths of files

Two paths are the same when they name the same parts one after the other. Slashes that repeat or end a path count for
nothing, and neither does a single dot, unless the path begins with it.
-/

namespace SheetQuery.Text

/-- Whether a path begins at the root, and its parts. -/
def pathParts (path : String) : Bool × List (List Char) :=
  let isPart (segment : List Char) : Bool := !segment.isEmpty && segment != ['.']
  match splitOn '/' path.toList with
  | [] => (false, [])
  | [] :: segments => (!segments.isEmpty, segments.filter isPart)
  | first :: segments => (false, first :: segments.filter isPart)

/-- Whether two paths are the same but for what counts for nothing. -/
def samePath (a b : String) : Bool :=
  pathParts a == pathParts b

end SheetQuery.Text
