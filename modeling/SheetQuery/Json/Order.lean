import SheetQuery.Json.Basic

/-!
# Comparing JSON values

Two scalars of one type compare naturally: integers exactly, an integer and a floating-point number after rounding the
integer to floating point, texts by their bytes. A total comparison for sorting ranks the types first.
-/

namespace SheetQuery

open Decimal

/-- The place of an integer among the numbers of 64-bit floating point, after rounding. -/
def roundedPlace (i : Int) : Int :=
  let rank := FloatFormat.double.nearestRank i.natAbs 1
  if i < 0 then -(rank : Int) else rank

/-- The place of a number among the numbers of 64-bit floating point. -/
def Number.place : Number → Int
  | .int i _ => roundedPlace i
  | .float x => x.place

/-- Compares two numbers: exactly when both are integers, else as floating-point numbers. -/
def Number.compare : Number → Number → Ordering
  | .int a _, .int b _ => Ord.compare a b
  | a, b => Ord.compare a.place b.place

/-- Whether two numbers are written alike: both integers or both not, and of one value. -/
def Number.same : Number → Number → Bool
  | .int a _, .int b _ => a == b
  | .float a, .float b => a.place == b.place
  | _, _ => false

/-- Compares two texts by the code points of their characters, which is also the order of their bytes. -/
def compareText (a b : String) : Ordering :=
  Ord.compare a.toList b.toList

instance : Std.TransCmp compareText :=
  inferInstanceAs (Std.TransCmp (compareOn String.toList))

instance : Std.LawfulEqCmp compareText where
  compare_self := Std.ReflCmp.compare_self
  eq_of_compare h := String.toList_inj.1 (Std.LawfulEqOrd.eq_of_compare h)

theorem compareText_self (a : String) : compareText a a = .eq :=
  Std.ReflCmp.compare_self

namespace Json

/-- Compares two values of one scalar type; there is no order between types, nor between arrays or objects. -/
def compareScalars : Json → Json → Option Ordering
  | .null, .null => some .eq
  | .bool a, .bool b => some (Ord.compare a.toNat b.toNat)
  | .num a, .num b => some (a.compare b)
  | .str a, .str b => some (compareText a b)
  | _, _ => none

mutual

/-- Equality of values. The order of members does not count, and an integer is never equal to a floating-point number. -/
def same : Json → Json → Bool
  | .null, .null => true
  | .bool a, .bool b => a == b
  | .num a, .num b => a.same b
  | .str a, .str b => a == b
  | .arr a, .arr b => sameItems a b
  | .obj a, .obj b => a.length == b.length && sameMembers a b
  | _, _ => false

/-- Equality of lists of values. -/
def sameItems : List Json → List Json → Bool
  | [], [] => true
  | x :: xs, y :: ys => same x y && sameItems xs ys
  | _, _ => false

/-- Whether each member on the left has an equal one of its key on the right. -/
def sameMembers : List (String × Json) → List (String × Json) → Bool
  | [], _ => true
  | (key, x) :: rest, other =>
    (match Members.get? key other with
      | some y => same x y
      | none => false) && sameMembers rest other

end

/-- Equality for a query: numbers by value, so that `5` equals `5.0`, and all else as written. -/
def equalValues : Json → Json → Bool
  | .num a, .num b => a.compare b == .eq
  | a, b => same a b

/-- The rank of a value's type in a sorted list. -/
def typeRank : Json → Nat
  | .null => 0
  | .bool _ => 1
  | .num _ => 2
  | .str _ => 3
  | .arr _ => 4
  | .obj _ => 5

/-- Compares two values that may be absent, for sorting: what is absent comes first, then the types in their order;
arrays and objects are equal among themselves. -/
def compareForSort : Option Json → Option Json → Ordering
  | none, none => .eq
  | none, some _ => .lt
  | some _, none => .gt
  | some a, some b =>
    (Ord.compare a.typeRank b.typeRank).then ((compareScalars a b).getD .eq)

end Json

end SheetQuery
