import SheetQuery.Decimal.Reading
import SheetQuery.Text.Quoted
import SheetQuery.Text.Utf8

/-!
# What can be wrong with a sheet

Every fault ends the reading or writing of the whole sheet. A fault has a code, which is of one of four kinds, and may
know the line it occurred on.
-/

namespace SheetQuery.Sheet

open Decimal Text

/-- Why a cell could not be converted. -/
inductive ConvertError where
  | integer (error : IntegerError)
  | number (error : DecimalError)
  | boolean
  | unknownMember (text : String)
  | missing
  deriving Repr, DecidableEq

/-- The wording of a failed conversion. -/
def ConvertError.message : ConvertError → String
  | .integer error => "invalid integer: " ++ error.message
  | .number error => "invalid number: " ++ error.message
  | .boolean => "invalid boolean: provided string was not `true` or `false`"
  | .unknownMember text => "'" ++ text ++ "' is not a member of the enumeration"
  | .missing => "value is required but the field is empty"

/-- Why a slot does not fit. -/
inductive SlotProblem where
  /-- There are no more values. -/
  | missing
  /-- A reader asked for one thing and found another. -/
  | expected (wanted found : String)
  /-- A record has another number of slots than its shape has fields. -/
  | count (slots fields : Nat)
  /-- There is no name at this place of the list of names. -/
  | memberOutOfRange (index : Nat)
  /-- The field of a named value has no names. -/
  | memberElsewhere
  deriving Repr, DecidableEq

/-- The wording of a slot that does not fit. -/
def SlotProblem.message : SlotProblem → String
  | .missing => "value missing"
  | .expected wanted found => "expected " ++ wanted ++ ", found " ++ found
  | .count slots fields => toString slots ++ " slots for " ++ toString fields ++ " fields"
  | .memberOutOfRange index => "enum index " ++ toString index ++ " out of range"
  | .memberElsewhere => "enum value for a non-enum field"

/-- A fault of a sheet, a shape or a record. -/
inductive Fault where
  | unknownLabel (shape label : String)
  | duplicateLabel (shape label : String)
  | noFields (shape : String)
  | missingColumn (shape field : String)
  | unsupportedType (shape field type : String)
  | conversion (shape field : String) (raw : Option String) (cause : ConvertError)
  | slotMismatch (shape field : String) (problem : SlotProblem)
  | missingHeader
  | invalidEncoding (line : Nat) (cause : Utf8Error)
  | unencodable (shape field raw : String)
  | cancelled (shape : String) (line : Nat)
  deriving Repr, DecidableEq

/-- The four kinds of faults. -/
inductive FaultKind where
  | schema
  | conversion
  | format
  | cancelled
  deriving Repr, DecidableEq

/-- The name of a kind. -/
def FaultKind.name : FaultKind → String
  | .schema => "SCHEMA"
  | .conversion => "CONVERSION"
  | .format => "FORMAT"
  | .cancelled => "CANCELLED"

namespace Fault

/-- The kind of a fault. -/
def kind : Fault → FaultKind
  | .unknownLabel .. | .duplicateLabel .. | .noFields .. | .missingColumn .. | .unsupportedType .. => .schema
  | .conversion .. | .slotMismatch .. => .conversion
  | .missingHeader | .invalidEncoding .. | .unencodable .. => .format
  | .cancelled .. => .cancelled

/-- The code of a fault. -/
def code : Fault → String
  | .unknownLabel .. => "CENSUS_SCHEMA_UNKNOWN_LABEL"
  | .duplicateLabel .. => "CENSUS_SCHEMA_DUPLICATE_LABEL"
  | .noFields .. => "CENSUS_SCHEMA_NO_FIELDS"
  | .missingColumn .. => "CENSUS_SCHEMA_MISSING_COLUMN"
  | .unsupportedType .. => "CENSUS_SCHEMA_UNSUPPORTED_TYPE"
  | .conversion .. => "CENSUS_CONVERSION_FAILED"
  | .slotMismatch .. => "CENSUS_SLOT_MISMATCH"
  | .missingHeader => "CENSUS_MISSING_HEADER"
  | .invalidEncoding .. => "CENSUS_INVALID_ENCODING"
  | .unencodable .. => "CENSUS_UNENCODABLE_VALUE"
  | .cancelled .. => "CENSUS_DESERIALIZE_CANCELLED"

/-- The wording of a fault, without its code. -/
def text : Fault → String
  | .unknownLabel shape label => "The " ++ shape ++ " shape has no field for the header labelled '" ++ label ++ "'"
  | .duplicateLabel shape label =>
    "The label '" ++ label ++ "' resolves to more than one column or field of " ++ shape
  | .noFields shape => "Cannot deserialize to " ++ shape ++ ": it declares no fields"
  | .missingColumn shape field => "The header has no column for required field '" ++ field ++ "' of " ++ shape
  | .unsupportedType shape field type =>
    "Field '" ++ field ++ "' of " ++ shape ++ " has type " ++ type ++ ", which datasheets cannot carry"
  | .conversion shape field raw _ =>
    "Failed to convert value " ++ quoted (raw.getD "") ++ " for field '" ++ field ++ "' of " ++ shape
  | .slotMismatch shape field problem => "Slot '" ++ field ++ "' of " ++ shape ++ ": " ++ problem.message
  | .missingHeader => "No header found"
  | .invalidEncoding line cause => "Line " ++ toString line ++ " is not valid UTF-8: " ++ cause.message
  | .unencodable shape field raw =>
    "Value " ++ quoted raw ++ " of field '" ++ field ++ "' of " ++ shape ++ " contains a separator or line break"
  | .cancelled shape line => "Deserialization of " ++ shape ++ " cancelled before line " ++ toString line

/-- The shape a fault is about. -/
def shape? : Fault → Option String
  | .unknownLabel shape _ | .duplicateLabel shape _ | .noFields shape | .missingColumn shape _
  | .unsupportedType shape _ _ | .conversion shape _ _ _ | .slotMismatch shape _ _ | .unencodable shape _ _
  | .cancelled shape _ => some shape
  | .missingHeader | .invalidEncoding .. => none

/-- The field or label a fault is about. -/
def field? : Fault → Option String
  | .unknownLabel _ name | .duplicateLabel _ name | .missingColumn _ name | .unsupportedType _ name _
  | .conversion _ name _ _ | .slotMismatch _ name _ | .unencodable _ name _ => some name
  | .noFields _ | .missingHeader | .invalidEncoding .. | .cancelled .. => none

/-- The text that caused a fault. -/
def raw? : Fault → Option String
  | .conversion _ _ raw _ => raw
  | .unencodable _ _ raw => some raw
  | _ => none

/-- Why a conversion failed. -/
def cause? : Fault → Option ConvertError
  | .conversion _ _ _ cause => some cause
  | _ => none

/-- The line that is part of a fault. -/
def ownLine? : Fault → Option Nat
  | .invalidEncoding line _ | .cancelled _ line => some line
  | _ => none

end Fault

/-- A fault and the line it occurred on, where that is known. -/
structure SheetError where
  fault : Fault
  line : Option Nat
  deriving Repr, DecidableEq

namespace SheetError

/-- A fault on the line that it names itself, if any. -/
def ofFault (fault : Fault) : SheetError :=
  ⟨fault, fault.ownLine?⟩

/-- The same fault on a line. -/
def atLine (error : SheetError) (line : Nat) : SheetError :=
  ⟨error.fault, some line⟩

/-- The whole wording of an error: kind, code, fault, line and cause. -/
def message (error : SheetError) : String :=
  "[" ++ error.fault.kind.name ++ "] " ++ error.fault.code ++ ": " ++ error.fault.text
    ++ (match error.line with
      | some line => " (line " ++ toString line ++ ")"
      | none => "")
    ++ (match error.fault.cause? with
      | some cause => ": " ++ cause.message
      | none => "")

end SheetError

end SheetQuery.Sheet
