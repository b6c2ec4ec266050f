import SheetQuery.Sheet.Record

/-!
# Writing sheets

The header has the names of the fields in capitals after the marker. Every cell is followed by a caret and every line by
a carriage return and a line feed. Null is written as an empty cell.
-/

namespace SheetQuery.Sheet

open Decimal Text

variable {α : Type}

/-- Numbers in sheets never have an exponent, and a whole number has no point. -/
def cellStyle : Style :=
  ⟨none, false, .up⟩

/-- Whether a text can stand in a cell. -/
def isCellText (text : String) : Bool :=
  text.toList.all fun c => c != '^' && c != '\r' && c != '\n'

/-- The text of a value of a field. -/
def cellText (shape : String) (field : Field) : SlotValue → Except SheetError String
  | .null => .ok ""
  | .bool true => .ok "1"
  | .bool false => .ok "0"
  | .signed v => .ok (toString v.toInt)
  | .unsigned v => .ok (toString v.toNat)
  | .float v =>
    match field.type with
    | .single => .ok (cellStyle.text (v.convert .single))
    | _ => .ok (cellStyle.text v)
  | .enum index =>
    match field.type with
    | .enum members =>
      match members[index]? with
      | some name => .ok name
      | none => .error (.ofFault (.slotMismatch shape field.name (.memberOutOfRange index)))
    | _ => .error (.ofFault (.slotMismatch shape field.name .memberElsewhere))
  | .text text =>
    if isCellText text then .ok text else .error (.ofFault (.unencodable shape field.name text))

/-- The texts of the cells of a line. -/
def cellTexts (shape : String) : List Field → List SlotValue → Except SheetError (List String)
  | field :: fields, value :: values => do
    let text ← cellText shape field value
    let texts ← cellTexts shape fields values
    return text :: texts
  | _, _ => .ok []

/-- Cells as a line, with its end. -/
def lineText (cells : List String) : List Char :=
  cells.flatMap (fun cell => cell.toList ++ ['^']) ++ ['\r', '\n']

/-- The line of a record. -/
def recordText (declaration : Declaration) (values : List SlotValue) : Except SheetError (List Char) :=
  if values.length = declaration.fields.length then lineText <$> cellTexts declaration.shape declaration.fields values
  else
    .error (.ofFault (.slotMismatch declaration.shape "<record>" (.count values.length declaration.fields.length)))

/-- A name in the capitals of the ASCII set. -/
def upperAscii (name : String) : String :=
  String.ofList (name.toList.map Char.toUpper)

/-- The lines of records. -/
def recordTexts (shape : Shape α) : List α → Except SheetError (List Char)
  | [] => .ok []
  | record :: records => do
    let line ← recordText shape.declaration (shape.toSlots record)
    let lines ← recordTexts shape records
    return line ++ lines

/-- The text of a sheet of records. The shape must be one that can be prepared. -/
def sheetText (shape : Shape α) (records : List α) (registry : Registry) :
    Except SheetError String × Registry :=
  match registry.shape shape.toShapeType with
  | (.error error, registry) => (.error error, registry)
  | (.ok _, registry) =>
    let header := '#' :: lineText (shape.declaration.fields.map (upperAscii ·.name))
    ((recordTexts shape records).map fun lines => String.ofList (header ++ lines), registry)

/-- The bytes of a sheet of records. -/
def encode (shape : Shape α) (records : List α) (registry : Registry) : Except SheetError (List UInt8) × Registry :=
  let (text, registry) := sheetText shape records registry
  (text.map encodeUtf8, registry)

end SheetQuery.Sheet
