import SheetQuery.Text.Blank
import SheetQuery.Text.Lowercase

/-!
# Labels

The labels of a header may be decorated with stars, written with or without underscores and in any case; they are
compared without all that.
-/

namespace SheetQuery.Sheet

open Text

/-- A label as it is compared: no stars at its ends, no underscores, in lower case. -/
def normalizeChars (label : List Char) : List Char :=
  ((dropEnds (· == '*') label).filter (· != '_')).flatMap lowercase

/-- A label as it is compared. -/
def normalizeLabel (label : String) : String :=
  String.ofList (normalizeChars label.toList)

end SheetQuery.Sheet
