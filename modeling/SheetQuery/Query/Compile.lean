import SheetQuery.Query.Plan

/-!
# Compiling requests

A request is the name of a collection and parameters in order. Faults are found in a fixed order: the collection, the
control parameters, the fields that these name, then the filters.
-/

namespace SheetQuery.Query

/-- Checks that every path begins with a declared field. -/
def requireAll (collection : Collection) : List String → Except QueryError Unit
  | [] => .ok ()
  | path :: paths =>
    match collection.require path with
    | .ok _ => requireAll collection paths
    | .error error => .error error

/-- The clause of a token. -/
def typedClause (collection : Collection) (token : Token) : Except QueryError Clause :=
  match collection.readOperand token.field token.operator token.operand with
  | .ok operand => .ok ⟨token.field, token.operator, operand⟩
  | .error error => .error error

/-- The clauses of tokens, unless one of them is at fault. -/
def typedClauses (collection : Collection) : List Token → Except QueryError (List Clause)
  | [] => .ok []
  | token :: rest => do
    let clause ← typedClause collection token
    let clauses ← typedClauses collection rest
    return clause :: clauses

/-- The tokens of the filter parameters, in the order of the request. -/
def filterTokens (params : List (String × String)) : List Token :=
  (params.filter fun param => !Control.isReserved param.1).flatMap fun param => tokens param.1 param.2

/-- Compiles a request. -/
def compile (catalog : Catalog) (name : String) (params : List (String × String)) : Except QueryError Plan := do
  let collection ← catalog.require name
  let control ← Control.read params
  requireAll collection
    (control.included ++ control.excluded ++ control.existing ++ control.sort.map SortKey.field)
  let filters ← typedClauses collection (filterTokens params)
  return {
    collection := collection.name
    filters := filters
    existence := control.existing
    projection := ⟨control.included, control.excluded⟩
    sort := control.sort
    skip := control.start
    limit := control.limit
    enrichment := Enrichment.ofCollection? collection.name
    timing := control.timing }

end SheetQuery.Query
