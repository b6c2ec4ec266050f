import SheetQuery.Sheet.Error
import SheetQuery.Sheet.Field

/-!
# Reading slots

The values of one line are read one after the other, each by the reader of what is expected there. A reader takes its
value whether or not it likes it, so what is read next stands in the next slot also after an error.
-/

namespace SheetQuery.Sheet

open Decimal

/-- The values of a line that are still to be read, and how many have been. -/
structure Slots where
  declaration : Declaration
  values : List SlotValue
  position : Nat

namespace Slots

/-- The values of a line before any of them is read. -/
def start (declaration : Declaration) (values : List SlotValue) : Slots :=
  ⟨declaration, values, 0⟩

/-- The name of the field at a position, or a phrase past the last one. -/
def fieldName (declaration : Declaration) (position : Nat) : String :=
  match declaration.fields[position]? with
  | some field => field.name
  | none => "<past end>"

/-- A reader of slots: an answer or an error, and the slots that are left in either case. -/
abbrev Read (α : Type) := ExceptT SheetError (StateM Slots) α

/-- Ends with a slot that does not fit. -/
def mismatch {α : Type} (declaration : Declaration) (name : String) (problem : SlotProblem) : Read α :=
  throw (.ofFault (.slotMismatch declaration.shape name problem))

/-- Takes the next value, and judges it: the judgement says what was wanted instead if the value does not fit. -/
def take {α : Type} (judge : SlotValue → Except String α) : Read α := do
  let slots ← get
  let name := fieldName slots.declaration slots.position
  match slots.values with
  | [] => mismatch slots.declaration name .missing
  | value :: rest =>
    set (Slots.mk slots.declaration rest (slots.position + 1))
    match judge value with
    | .ok answer => pure answer
    | .error wanted => mismatch slots.declaration name (.expected wanted value.kind)

/-- The judgement that also accepts null. -/
def orNull {α : Type} (judge : SlotValue → Except String α) : SlotValue → Except String (Option α)
  | .null => .ok none
  | value => some <$> judge value

/-- An integer, if it has a width. -/
def inWidth (width : IntWidth) (i : Int) : Except String Int :=
  if width.holds i then .ok i else .error "integer within declared width"

/-- An integer of a width. -/
def asInteger (width : IntWidth) : SlotValue → Except String Int
  | .signed v => inWidth width v.toInt
  | .unsigned v => inWidth width v.toNat
  | _ => .error "integer"

/-- A floating-point number of 64 bits. -/
def asDouble : SlotValue → Except String Double
  | .float v => .ok v
  | _ => .error "float"

/-- A floating-point number, narrowed to 32 bits. -/
def asSingle (value : SlotValue) : Except String Single :=
  Binary.convert .single <$> asDouble value

/-- A truth value. -/
def asBool : SlotValue → Except String Bool
  | .bool v => .ok v
  | _ => .error "bool"

/-- A text. -/
def asText : SlotValue → Except String String
  | .text v => .ok v
  | _ => .error "string"

/-- A place in a list of so many names. -/
def asMember (members : Nat) : SlotValue → Except String Nat
  | .enum index => if index < members then .ok index else .error "known enum member"
  | _ => .error "enum"

/-- A word of 32 bits without a sign. -/
def uint32 : Read UInt32 :=
  (fun i => UInt32.ofNat i.toNat) <$> take (asInteger .u32)

/-- A word of 32 bits without a sign, or nothing. -/
def uint32? : Read (Option UInt32) :=
  Option.map (fun i => UInt32.ofNat i.toNat) <$> take (orNull (asInteger .u32))

/-- A word of 32 bits with a sign. -/
def int32 : Read Int32 :=
  Int32.ofInt <$> take (asInteger .i32)

/-- A word of 32 bits with a sign, or nothing. -/
def int32? : Read (Option Int32) :=
  Option.map Int32.ofInt <$> take (orNull (asInteger .i32))

/-- A floating-point number of 64 bits. -/
def double : Read Double :=
  take asDouble

/-- A floating-point number of 32 bits, or nothing. -/
def single? : Read (Option Single) :=
  take (orNull asSingle)

/-- A truth value. -/
def bool : Read Bool :=
  take asBool

/-- A text. -/
def text : Read String :=
  take asText

/-- A place in a list of so many names. -/
def member (members : Nat) : Read Nat :=
  take (asMember members)

end Slots

/-- A reader of a slot that gives back what it read as a value of a slot. -/
inductive SlotReader where
  | int (width : IntWidth) (optional : Bool)
  | double (optional : Bool)
  | single (optional : Bool)
  | bool (optional : Bool)
  | text (optional : Bool)
  /-- A name out of so many; there is no reader that takes null for a name. -/
  | member (members : Nat)
  deriving Repr, DecidableEq

namespace SlotReader

open Slots

/-- Judges a value and gives it back in the form in which it was read. -/
def judge : SlotReader → SlotValue → Except String SlotValue
  | .int width _, value => SlotValue.ofInt width <$> asInteger width value
  | .double _, value => .float <$> asDouble value
  | .single _, value => (fun x => .float (Binary.convert .double x)) <$> asSingle value
  | .bool _, value => .bool <$> asBool value
  | .text _, value => .text <$> asText value
  | .member members, value => .enum <$> asMember members value

/-- Whether null is taken too. -/
def optional : SlotReader → Bool
  | .int _ optional | .double optional | .single optional | .bool optional | .text optional => optional
  | .member _ => false

/-- Reads the next slot. -/
def read (reader : SlotReader) : Read SlotValue :=
  if reader.optional then (·.getD .null) <$> take (orNull reader.judge) else take reader.judge

/-- Reads as many slots as there are readers, unless one of them has an error. -/
def readAll : List SlotReader → Read (List SlotValue)
  | [] => pure []
  | reader :: readers => do
    let value ← reader.read
    let values ← readAll readers
    return value :: values

end SlotReader

end SheetQuery.Sheet
