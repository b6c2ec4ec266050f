import SheetQuery.Sheet.Error
import SheetQuery.Sheet.Field
import SheetQuery.Text.Blank

/-!
# Converting cells

The converter of a field is chosen when the shape is prepared, so a type that no sheet can hold is refused before any
line is read.
-/

namespace SheetQuery.Sheet

open Decimal Text

/-- How the text of a cell is read. -/
inductive CellReader where
  | bool
  | int (width : IntWidth)
  | single
  | double
  | text
  | enum (members : List String)
  deriving Repr, DecidableEq

/-- The converter of a field: how its texts are read, and whether an empty cell is null. -/
structure Converter where
  reader : CellReader
  nullable : Bool
  deriving Repr, DecidableEq

/-- A number for no or yes, or the word in any case with white space around it. -/
def readBool (cell : String) : Except ConvertError SlotValue :=
  if cell = "0" then .ok (.bool false)
  else if cell = "1" then .ok (.bool true)
  else
    let word := lowerAscii (trim cell).toList
    if word = "true".toList then .ok (.bool true)
    else if word = "false".toList then .ok (.bool false)
    else .error .boolean

/-- An integer of a width, without white space. -/
def readInt (width : IntWidth) (cell : String) : Except ConvertError SlotValue :=
  match readInteger width cell.toList with
  | .ok i => .ok (.ofInt width i)
  | .error error => .error (.integer error)

/-- A number of a floating-point format, with white space around it. -/
def readNumber (format : FloatFormat) (cell : String) : Except ConvertError (Binary format) :=
  match readBinary format (trim cell).toList with
  | .ok x => .ok x
  | .error error => .error (.number error)

/-- The place of a name in a list of names. -/
def readMember (members : List String) (cell : String) : Except ConvertError SlotValue :=
  match members.findIdx? (· == cell) with
  | some index => .ok (.enum index)
  | none => .error (.unknownMember cell)

/-- The value of a cell that is not empty. A number of 32 bits is widened. -/
def CellReader.read : CellReader → String → Except ConvertError SlotValue
  | .bool, cell => readBool cell
  | .int width, cell => readInt width cell
  | .single, cell => (fun x => .float (x.convert .double)) <$> readNumber .single cell
  | .double, cell => .float <$> readNumber .double cell
  | .text, cell => .ok (.text cell)
  | .enum members, cell => readMember members cell

/-- How the cells of a type are read; there is no way for lists. -/
def CellReader.ofType? : FieldType → Option CellReader
  | .bool => some .bool
  | .int width => some (.int width)
  | .single => some .single
  | .double | .decimal => some .double
  | .text => some .text
  | .enum members => some (.enum members)
  | .list _ => none

/-- The converter of a declared field. -/
def Converter.ofField (shape : String) (field : Field) : Except SheetError Converter :=
  match CellReader.ofType? field.type with
  | some reader => .ok ⟨reader, field.nullable⟩
  | none => .error (.ofFault (.unsupportedType shape field.name field.type.name))

/-- The value of a cell, which may be empty. -/
def Converter.convert (converter : Converter) : Option String → Except ConvertError SlotValue
  | none => if converter.nullable then .ok .null else .error .missing
  | some cell => converter.reader.read cell

end SheetQuery.Sheet
