import SheetQuery.Json.Basic
import SheetQuery.Text.Split

/-!
# Filters

A filter parameter names a field; its value is a list of pieces between commas, all of which must hold. The first
character of a piece, if it is a sigil, selects the comparison, and the rest is the operand. The sigil of an anchored
pattern is part of the pattern. A piece that is empty, or a sigil and nothing else, says nothing.
-/

namespace SheetQuery.Query

/-- The comparisons a filter can make. -/
inductive Operator where
  | eq | ne | lt | lte | gt | gte | regexAnchored | regexContains
  deriving Repr, DecidableEq

namespace Operator

/-- The comparison that a sigil selects. -/
def ofSigil? (c : Char) : Option Operator :=
  if c = '<' then some .lt
  else if c = '[' then some .lte
  else if c = '>' then some .gt
  else if c = ']' then some .gte
  else if c = '^' then some .regexAnchored
  else if c = '*' then some .regexContains
  else if c = '!' then some .ne
  else none

/-- The sigil written before an operand; equality has none, and that of an anchored pattern belongs to the operand. -/
def sigil : Operator → List Char
  | .lt => ['<']
  | .lte => ['[']
  | .gt => ['>']
  | .gte => [']']
  | .ne => ['!']
  | .regexContains => ['*']
  | .eq | .regexAnchored => []

/-- Whether this compares by order. -/
def isRange : Operator → Bool
  | .lt | .lte | .gt | .gte => true
  | _ => false

/-- Whether the operand is a pattern. -/
def isRegex : Operator → Bool
  | .regexAnchored | .regexContains => true
  | _ => false

/-- The name of the comparison in a pipeline. -/
def storeName : Operator → String
  | .eq => "$eq"
  | .ne => "$ne"
  | .lt => "$lt"
  | .lte => "$lte"
  | .gt => "$gt"
  | .gte => "$gte"
  | .regexAnchored | .regexContains => "$regex"

end Operator

/-- Splits one piece into its comparison and its operand. -/
def readPiece : List Char → Option (Operator × List Char)
  | [] => none
  | c :: rest =>
    match Operator.ofSigil? c with
    | none => some (.eq, c :: rest)
    | some operator =>
      if rest.isEmpty then none
      else if operator = .regexAnchored then some (operator, c :: rest)
      else some (operator, rest)

/-- The comparisons that the value of a filter parameter makes, in order. -/
def readPieces (value : List Char) : List (Operator × List Char) :=
  (Text.splitOn ',' value).filterMap readPiece

/-- The text of a comparison, from which it is read. -/
def writePiece (piece : Operator × List Char) : List Char :=
  piece.1.sigil ++ piece.2

/-- A comparison as it stands in a request, its operand a text. -/
structure Token where
  field : String
  operator : Operator
  operand : String
  deriving Repr, DecidableEq

/-- A comparison with an operand of the type of its field. -/
structure Clause where
  field : String
  operator : Operator
  operand : Json

/-- The comparisons of a filter parameter. -/
def tokens (field value : String) : List Token :=
  (readPieces value.toList).map fun (operator, operand) => ⟨field, operator, String.ofList operand⟩

/-- The comparison that a whole value makes when it is taken for one piece. -/
def wholeValue (value : String) : Option (Operator × String) :=
  (readPiece value.toList).map fun (operator, operand) => (operator, String.ofList operand)

end SheetQuery.Query
