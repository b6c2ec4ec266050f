import SheetQuery.Json.Order
import SheetQuery.Json.Path
import SheetQuery.Query.Filter
import SheetQuery.Store.Engine
import SheetQuery.Store.Error

/-!
# Conditions on documents

A clause holds of a document when its comparison holds of the value at its field, or of one item of the array there. Only
values of one type compare, and a field that is missing differs from everything. The pattern of a clause is read once,
before any document is looked at.
-/

namespace SheetQuery.Store

open Query

/-- Whether a test holds of a value, or of an item of it if it is an array; it never holds of what is missing. -/
def anyElement (test : Json → Bool) : Option Json → Bool
  | some (.arr items) => items.any test
  | some value => test value
  | none => false

/-- Whether a value stands to a bound in an order that is accepted. -/
def ordered (accept : Ordering → Bool) (bound value : Json) : Bool :=
  match Json.compareScalars value bound with
  | some order => accept order
  | none => false

/-- Whether a value is a text in which a pattern is found. -/
def containsPattern (isFound : String → Bool) (value : Json) : Bool :=
  match value.str? with
  | some text => isFound text
  | none => false

/-- A clause with its pattern as it has been read, if it has one. -/
structure Condition where
  clause : Clause
  pattern : Option (String → Bool)

namespace Condition

/-- Whether a condition holds of what is at its field. -/
def holdsAt (condition : Condition) (value : Option Json) : Bool :=
  let operand := condition.clause.operand
  match condition.clause.operator with
  | .eq => anyElement (fun v => v.equalValues operand) value
  | .ne => !anyElement (fun v => v.equalValues operand) value
  | .lt => anyElement (ordered Ordering.isLT operand) value
  | .lte => anyElement (ordered Ordering.isLE operand) value
  | .gt => anyElement (ordered Ordering.isGT operand) value
  | .gte => anyElement (ordered Ordering.isGE operand) value
  | .regexAnchored | .regexContains =>
    match condition.pattern with
    | some isFound => anyElement (containsPattern isFound) value
    | none => false

/-- Whether a condition holds of a document. -/
def holds (condition : Condition) (document : Json) : Bool :=
  condition.holdsAt (document.lookup condition.clause.field)

variable [PatternEngine]

/-- The condition of a clause. An operand that is no text counts as the empty pattern. -/
def ofClause (clause : Clause) : Except StoreError Condition :=
  if clause.operator.isRegex then
    let source := clause.operand.str?.getD ""
    match PatternEngine.read source with
    | .ok isFound => .ok ⟨clause, some isFound⟩
    | .error reason => .error (.unsupportedPattern ⟨source, reason⟩)
  else .ok ⟨clause, none⟩

/-- The conditions of clauses, unless the pattern of one of them is refused. -/
def ofClauses : List Clause → Except StoreError (List Condition)
  | [] => .ok []
  | clause :: rest => do
    let condition ← ofClause clause
    let conditions ← ofClauses rest
    return condition :: conditions

end Condition

/-- Whether a field is there and not null. -/
def hasValue (document : Json) (field : String) : Bool :=
  match document.lookup field with
  | some value => !value.isNull
  | none => false

/-- Whether a document has all fields that must exist, and all conditions hold of it. -/
def accepts (existence : List String) (conditions : List Condition) (document : Json) : Bool :=
  existence.all (hasValue document) && conditions.all fun condition => condition.holds document

end SheetQuery.Store
