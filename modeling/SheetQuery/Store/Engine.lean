/-!
# What reads patterns

The language of patterns is no matter of the store. It hands a pattern to an engine, which refuses it and says why, or gives a
test of texts. The store is the same whatever the engine is.
-/

namespace SheetQuery

/-- What reads patterns: a pattern is refused for a reason, or is a test that says of a text whether the pattern is found
in it. -/
class PatternEngine where
  read : String → Except String (String → Bool)

end SheetQuery
