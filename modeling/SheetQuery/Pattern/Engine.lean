import SheetQuery.Pattern.Reader
import SheetQuery.Pattern.Search
import SheetQuery.Store.Engine

/-!
# Patterns for the store

Patterns are read and looked for by automata. Why a pattern is refused is not told, so that a mark stands where the reason
would.
-/

namespace SheetQuery.Pattern

/-- The engine that programs use. -/
instance engine : PatternEngine where
  read source :=
    match read? source with
    | some automaton => .ok automaton.isFound
    | none => .error "<reason>"

end SheetQuery.Pattern
