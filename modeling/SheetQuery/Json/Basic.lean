import SheetQuery.Decimal.Reading
import SheetQuery.Json.Members

/-!
# JSON values

The documents that are stored and answered. The members of an object keep their order. A number is either an integer
that fits 64 bits, with or without a sign, or a finite number of 64-bit floating point; the two never mix, so `5` and
`5.0` are different values of equal size.
-/

namespace SheetQuery

open Decimal

/-- The integers that 64 bits can hold, read with a sign or without one. -/
def FitsInteger (i : Int) : Prop :=
  -9223372036854775808 ≤ i ∧ i < 18446744073709551616

instance (i : Int) : Decidable (FitsInteger i) :=
  inferInstanceAs (Decidable (_ ∧ _))

/-- A number of a document. -/
inductive Number where
  | int (value : Int) (fits : FitsInteger value)
  | float (value : Finite .double)
  deriving DecidableEq

/-- A JSON value. -/
inductive Json where
  | null
  | bool (value : Bool)
  | num (value : Number)
  | str (value : String)
  | arr (items : List Json)
  | obj (members : List (String × Json))
  deriving Inhabited

namespace Json

/-- An integer as a value, if it fits. -/
def ofInt? (i : Int) : Option Json :=
  if h : FitsInteger i then some (.num (.int i h)) else none

/-- A word of 64 bits without a sign as a value. -/
def ofUInt64 (n : UInt64) : Json :=
  .num (.int n.toNat ⟨by omega, by have := n.toNat_lt; omega⟩)

/-- A word of 32 bits without a sign as a value. -/
def ofUInt32 (n : UInt32) : Json :=
  .num (.int n.toNat ⟨by omega, by have := n.toNat_lt; omega⟩)

/-- A word of 32 bits with a sign as a value. -/
def ofInt32 (n : Int32) : Json :=
  .num (.int n.toInt ⟨by have := n.le_toInt; omega, by have := n.toInt_lt; omega⟩)

/-- A floating-point number as a value; what is not finite has no JSON form and becomes null. -/
def ofDouble : Double → Json
  | .finite x => .num (.float x)
  | _ => .null

/-- A count as a value; counts stay far below the bound past which this is null. -/
def ofNat (n : Nat) : Json :=
  (ofInt? n).getD .null

/-- A value that may be absent, which is then null. -/
def ofOption {α : Type} (encode : α → Json) : Option α → Json
  | none => .null
  | some x => encode x

/-- The value of a member, if this is an object that has it. -/
def get? (key : String) : Json → Option Json
  | .obj members => Members.get? key members
  | _ => none

/-- Whether this is null. -/
def isNull : Json → Bool
  | .null => true
  | _ => false

/-- The text, if this is one. -/
def str? : Json → Option String
  | .str s => some s
  | _ => none

/-- This object with a member set; what is no object stays as it is. -/
def setMember (document : Json) (key : String) (value : Json) : Json :=
  match document with
  | .obj members => .obj (Members.insert key value members)
  | other => other

/-- This object without a member; what is no object stays as it is. -/
def dropMember (key : String) : Json → Json
  | .obj members => .obj (Members.remove key members)
  | other => other

end Json

end SheetQuery
