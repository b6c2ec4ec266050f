import SheetQuery.Decimal.Notation
import SheetQuery.Decimal.Width

/-!
# Fields of a sheet

A shape declares its fields once, in the order in which its records are put together. A converted value stands in the
slot of its field.
-/

namespace SheetQuery.Sheet

open Decimal

/-- What the values of a field are. -/
inductive FieldType where
  /-- A digit for no or yes, or the word. -/
  | bool
  | int (width : IntWidth)
  /-- A floating-point number of 32 bits. -/
  | single
  /-- A floating-point number of 64 bits. -/
  | double
  /-- A decimal number, held as a floating-point number of 64 bits. -/
  | decimal
  /-- Any text. -/
  | text
  /-- One of a list of names. -/
  | enum (members : List String)
  /-- Several values: a shape can declare it, but no sheet can hold it. -/
  | list (element : FieldType)
  deriving Repr, DecidableEq, Inhabited

/-- The name of a type. -/
def FieldType.name : FieldType → String
  | .bool => "bool"
  | .int width => width.name
  | .single => "f32"
  | .double => "f64"
  | .decimal => "decimal"
  | .text => "string"
  | .enum _ => "enum"
  | .list _ => "list"

/-- A declared field. -/
structure Field where
  name : String
  type : FieldType
  /-- Whether an empty cell stands for null. -/
  nullable : Bool
  deriving Repr, DecidableEq, Inhabited

/-- The name of a shape and its fields, in the order of the slots. -/
structure Declaration where
  shape : String
  fields : List Field
  deriving Repr, DecidableEq

/-- A type of records. Two types may declare the same and are two types all the same. -/
structure ShapeType where
  declaration : Declaration
  /-- Which of the types that declare the same it is. -/
  variant : Nat := 0
  deriving Repr, DecidableEq

instance : Coe Declaration ShapeType where
  coe declaration := { declaration }

/-- The value in a slot. -/
inductive SlotValue where
  | null
  | bool (value : Bool)
  | signed (value : Int64)
  | unsigned (value : UInt64)
  | float (value : Double)
  | text (value : String)
  /-- The place of a name in the list of names. -/
  | enum (index : Nat)
  deriving DecidableEq

/-- Whether the slot is empty. -/
def SlotValue.isNull : SlotValue → Bool
  | .null => true
  | _ => false

/-- What kind of value is in a slot. -/
def SlotValue.kind : SlotValue → String
  | .null => "null"
  | .bool _ => "bool"
  | .signed _ => "signed integer"
  | .unsigned _ => "unsigned integer"
  | .float _ => "float"
  | .text _ => "string"
  | .enum _ => "enum"

/-- An integer as a value of a width: with a sign or without one. -/
def SlotValue.ofInt (w : IntWidth) (i : Int) : SlotValue :=
  if w.signed then .signed (Int64.ofInt i) else .unsigned (UInt64.ofNat i.toNat)

end SheetQuery.Sheet
