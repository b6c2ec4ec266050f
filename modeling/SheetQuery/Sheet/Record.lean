import SheetQuery.Sheet.Schema
import SheetQuery.Sheet.Slots

/-!
# Records

A shape of records says how a record is put together from slots and taken apart again. The records of a sheet can be
asked for one by one, with the possibility to stop between lines, or all at once.
-/

namespace SheetQuery.Sheet

/-- A kind of record: its type, how one is put together from slots and how it is taken apart. -/
structure Shape (α : Type) extends ShapeType where
  ofSlots : Slots.Read α
  toSlots : α → List SlotValue

namespace Shape

/-- Puts a record together from values. -/
def build {α : Type} (shape : Shape α) (values : List SlotValue) : Except SheetError α :=
  (shape.ofSlots (Slots.start shape.declaration values)).1

/-- The records that are lists of values, read by a list of readers. -/
def ofReaders (declaration : Declaration) (readers : List SlotReader) : Shape (List SlotValue) :=
  ⟨declaration, SlotReader.readAll readers, id⟩

/-- The records that are lists of values, whatever their number and kinds. -/
def unchecked (declaration : Declaration) : Shape (List SlotValue) where
  declaration := declaration
  ofSlots := do
    let slots ← get
    set (Slots.mk slots.declaration [] (slots.position + slots.values.length))
    return slots.values
  toSlots := id

end Shape

variable {α : Type}

/-- The value for a mapped column of a line; cells that a short line lacks are empty. -/
def convertColumn (schema : Schema) (cells : RawLine) (column : Column) : Except SheetError SlotValue :=
  let raw := (cells[column.column]?).join
  match schema.shape.converters[column.slot]?, schema.shape.declaration.fields[column.slot]? with
  | some converter, some field =>
    match converter.convert raw with
    | .ok value => .ok value
    | .error cause => .error (.ofFault (.conversion schema.shape.declaration.shape field.name raw cause))
  | _, _ => .ok .null

/-- The values of a line in their slots: those of the mapped columns, in the order of the header, and null elsewhere. -/
def fillSlots (schema : Schema) (line : RawLine) : List Column → List SlotValue → Except SheetError (List SlotValue)
  | [], values => .ok values
  | column :: columns, values => do
    let value ← convertColumn schema line column
    fillSlots schema line columns (values.set column.slot value)

/-- The values of a line, one for each slot. -/
def slotValues (schema : Schema) (line : RawLine) : Except SheetError (List SlotValue) :=
  fillSlots schema line schema.columns (List.replicate schema.shape.slotCount .null)

/-- The record of the line with a number. -/
def materialize (shape : Shape α) (schema : Schema) (line : RawLine) (number : Nat) : Except SheetError α :=
  match (slotValues schema line).bind shape.build with
  | .ok record => .ok record
  | .error error => .error (error.atLine number)

/-- The records of a sheet that are still to be read. -/
structure Records (α : Type) where
  shape : Shape α
  schema : Schema
  lines : Lines
  /-- Whether there is nothing more to come: the lines have ended, or an error has been told. -/
  finished : Bool

namespace Records

/-- Opens a sheet: its header is read and resolved at once. -/
def start (shape : Shape α) (bytes : List UInt8) (registry : Registry) : Except SheetError (Records α) × Registry :=
  match Lines.withHeader bytes with
  | .error error => (.error error, registry)
  | .ok lines =>
    match lines.next with
    | (none, _) => (.error (.ofFault .missingHeader), registry)
    | (some (.error error), _) => (.error error, registry)
    | (some (.ok header), rest) =>
      let (schema, registry) := registry.resolve shape.toShapeType header
      (schema.map fun schema => ⟨shape, schema, rest, false⟩, registry)

/-- The next record or the error that ends the sheet, and what comes after it. A reader that has been told to stop does
so before the next line, never within one. -/
def next (stop : Bool) (records : Records α) : Option (Except SheetError α) × Records α :=
  if records.finished then (none, records)
  else if stop then
    let error := SheetError.ofFault (.cancelled records.shape.declaration.shape (records.lines.number + 1))
    (some (.error error), { records with finished := true })
  else
    match records.lines.next with
    | (none, rest) => (none, { records with lines := rest, finished := true })
    | (some (.error error), rest) => (some (.error error), { records with lines := rest, finished := true })
    | (some (.ok line), rest) =>
      match materialize records.shape records.schema line rest.number with
      | .ok record => (some (.ok record), { records with lines := rest })
      | .error error => (some (.error error), { records with lines := rest, finished := true })

/-- The records of numbered lines, unless one of them has an error. -/
def collectLines (shape : Shape α) (schema : Schema) :
    List (Nat × Except SheetError RawLine) → Except SheetError (List α)
  | [] => .ok []
  | (number, line) :: lines => do
    let record ← materialize shape schema (← line) number
    let records ← collectLines shape schema lines
    return record :: records

/-- All records still to be read, unless there is an error among them. -/
def collect (records : Records α) : Except SheetError (List α) :=
  if records.finished then .ok [] else collectLines records.shape records.schema records.lines.toList

end Records

/-- All records of a sheet; one error anywhere discards the sheet. -/
def decodeAll (shape : Shape α) (bytes : List UInt8) (registry : Registry) : Except SheetError (List α) × Registry :=
  let (opened, registry) := Records.start shape bytes registry
  (opened.bind Records.collect, registry)

/-- The records of numbered lines that come after the line with a number, unless one of them has an error or a check made
before each of them, and once more at the end, says to stop. -/
def Records.collectLinesUntil {σ : Type} (check : StateM σ Bool) (shape : Shape α) (schema : Schema) (number : Nat) :
    List (Nat × Except SheetError RawLine) → StateM σ (Except SheetError (List α))
  | [] => do
    if ← check then return .error (SheetError.ofFault (.cancelled shape.declaration.shape (number + 1)))
    return .ok []
  | (next, line) :: lines => do
    if ← check then return .error (SheetError.ofFault (.cancelled shape.declaration.shape (number + 1)))
    match line.bind fun cells => materialize shape schema cells next with
    | .error error => return .error error
    | .ok record =>
      match ← collectLinesUntil check shape schema next lines with
      | .error error => return .error error
      | .ok records => return .ok (record :: records)

/-- All records of a sheet, unless a check made before it is opened and between its lines says to stop. -/
def decodeUntil {σ : Type} (check : StateM σ Bool) (shape : Shape α) (bytes : List UInt8) (registry : Registry) :
    StateM σ (Except SheetError (List α) × Registry) := do
  if ← check then return (.error (.ofFault (.cancelled shape.declaration.shape 1)), registry)
  match Records.start shape bytes registry with
  | (.error error, registry) => return (.error error, registry)
  | (.ok records, registry) =>
    let lines := records.lines
    return (← Records.collectLinesUntil check shape records.schema lines.number lines.toList, registry)

end SheetQuery.Sheet
