import SheetQuery.Sheet.Converter
import SheetQuery.Sheet.Label
import SheetQuery.Sheet.Lines

/-!
# Schemas

A shape is prepared once: its converters are chosen and its field names normalized. A header is then resolved against
the prepared shape, each labelled column being assigned the slot of the field that it names. Prepared shapes are kept in
a registry, by their types.
-/

namespace SheetQuery.Sheet

/-- A shape with the converters and the normalized names of its fields. -/
structure ShapeSchema where
  declaration : Declaration
  converters : List Converter
  names : List String
  deriving Repr, DecidableEq

namespace ShapeSchema

/-- The converters and normalized names of fields, when the names before them are given. A name must not come twice. -/
def prepareFields (shape : String) (taken : List String) :
    List Field → Except SheetError (List Converter × List String)
  | [] => .ok ([], taken)
  | field :: fields => do
    let converter ← Converter.ofField shape field
    let name := normalizeLabel field.name
    if taken.contains name then throw (.ofFault (.duplicateLabel shape field.name))
    let (converters, names) ← prepareFields shape (taken ++ [name]) fields
    return (converter :: converters, names)

/-- Prepares a shape, which must declare at least one field. -/
def prepare (declaration : Declaration) : Except SheetError ShapeSchema :=
  if declaration.fields.isEmpty then .error (.ofFault (.noFields declaration.shape))
  else do
    let (converters, names) ← prepareFields declaration.shape [] declaration.fields
    return ⟨declaration, converters, names⟩

/-- The number of slots of a record. -/
def slotCount (schema : ShapeSchema) : Nat :=
  schema.declaration.fields.length

/-- The slot of the field that a label names. -/
def slotFor? (schema : ShapeSchema) (label : String) : Option Nat :=
  schema.names.findIdx? (· == normalizeLabel label)

end ShapeSchema

/-- A column of a header and the slot that it fills, with what the field of the slot declares. -/
structure Column where
  column : Nat
  slot : Nat
  type : FieldType
  nullable : Bool
  deriving Repr, DecidableEq

/-- A header resolved against a shape. -/
structure Schema where
  shape : ShapeSchema
  /-- The labelled columns, in the order of the header. -/
  columns : List Column
  /-- The number of columns of the header, labelled or not. -/
  columnCount : Nat
  deriving Repr, DecidableEq

namespace ShapeSchema

/-- The column at a position that fills a slot. A slot that a label names is that of a field. -/
def column (schema : ShapeSchema) (position slot : Nat) : Column :=
  let field := schema.declaration.fields[slot]!
  ⟨position, slot, field.type, field.nullable⟩

/-- Assigns the labelled columns from a position on, when the slots before them are given. -/
def assign (schema : ShapeSchema) (position : Nat) (covered : List Nat) :
    RawLine → Except SheetError (List Column)
  | [] => .ok []
  | none :: header => schema.assign (position + 1) covered header
  | some label :: header =>
    match schema.slotFor? label with
    | none => .error (.ofFault (.unknownLabel schema.declaration.shape label))
    | some slot =>
      if covered.contains slot then .error (.ofFault (.duplicateLabel schema.declaration.shape label))
      else do
        let columns ← schema.assign (position + 1) (slot :: covered) header
        return schema.column position slot :: columns

/-- The first field, from a slot on, that must have a column and has none. -/
def firstUncovered (covered : List Nat) (slot : Nat) : List Field → Option Field
  | [] => none
  | field :: fields =>
    if !field.nullable && !covered.contains slot then some field else firstUncovered covered (slot + 1) fields

/-- Resolves a header. Every label must name one field, no field may be named twice, and every field that does not take
null must be named. -/
def resolve (schema : ShapeSchema) (header : RawLine) : Except SheetError Schema := do
  let columns ← schema.assign 0 [] header
  match firstUncovered (columns.map Column.slot) 0 schema.declaration.fields with
  | some field => throw (.ofFault (.missingColumn schema.declaration.shape field.name))
  | none => return ⟨schema, columns, header.length⟩

end ShapeSchema

/-- The shapes that have been prepared, in the order in which they were. -/
structure Registry where
  shapes : List (ShapeType × ShapeSchema)
  deriving Repr, DecidableEq

namespace Registry

/-- No shape has been prepared. -/
def empty : Registry :=
  ⟨[]⟩

/-- The number of prepared shapes. -/
def size (registry : Registry) : Nat :=
  registry.shapes.length

/-- A prepared shape. -/
def find? (registry : Registry) (type : ShapeType) : Option ShapeSchema :=
  (registry.shapes.find? (·.1 == type)).map Prod.snd

/-- The prepared form of a shape, and the registry that has it from now on. A shape that cannot be prepared is not kept. -/
def shape (type : ShapeType) (registry : Registry) : Except SheetError ShapeSchema × Registry :=
  match registry.find? type with
  | some schema => (.ok schema, registry)
  | none =>
    match ShapeSchema.prepare type.declaration with
    | .ok schema => (.ok schema, ⟨registry.shapes ++ [(type, schema)]⟩)
    | .error error => (.error error, registry)

/-- Resolves a header against a shape, and the registry that has the shape from now on. -/
def resolve (type : ShapeType) (header : RawLine) (registry : Registry) : Except SheetError Schema × Registry :=
  let (prepared, registry) := registry.shape type
  (prepared.bind (·.resolve header), registry)

end Registry

end SheetQuery.Sheet
