import SheetQuery.Decimal.Reading
import SheetQuery.Query.Error
import SheetQuery.Text.Blank
import SheetQuery.Text.Split

/-!
# Control parameters

Parameters whose names begin with `c:` steer paging, projection, sorting and timing; all others are filters. Lists grow
when a parameter is repeated, and of single values the last one counts.
-/

namespace SheetQuery.Query

open Decimal Text

/-- A key to sort by. -/
structure SortKey where
  field : String
  descending : Bool
  deriving Repr, DecidableEq

namespace SortKey

/-- Reads a key: a field, and after a colon a mark for descending order. Anything else after a colon means ascending. -/
def read (token : String) : SortKey :=
  match pieces ':' token with
  | [field, mark] => ⟨field, mark == "-1"⟩
  | field :: _ => ⟨field, false⟩
  | [] => ⟨token, false⟩

/-- The text of a key, from which it is read. -/
def write (key : SortKey) : String :=
  if key.descending then key.field ++ ":-1" else key.field

/-- The direction as a number. -/
def direction (key : SortKey) : Int :=
  if key.descending then -1 else 1

end SortKey

/-- What the control parameters of a request say. -/
structure Control where
  start : UInt64
  limit : UInt64
  included : List String
  excluded : List String
  sort : List SortKey
  existing : List String
  timing : Bool
  deriving Repr, DecidableEq

namespace Control

/-- The size of a page when a request does not say. -/
def defaultLimit : UInt64 := 100

/-- The size of the largest page. -/
def maxLimit : UInt64 := 10000

/-- What a request without control parameters says. -/
def default : Control :=
  ⟨0, defaultLimit, [], [], [], [], false⟩

/-- The name of a control parameter without its mark, if the name has it. -/
def name? (param : String) : Option String :=
  match param.toList with
  | 'c' :: ':' :: name => some (String.ofList name)
  | _ => none

/-- The entries of a list between commas, without white space at their ends; empty ones are left out. -/
def entries (value : String) : List String :=
  ((pieces ',' value).map trim).filter (· != "")

/-- An integer of 64 bits without a sign, with white space around it. -/
def readCount? (value : String) : Option UInt64 :=
  match readInteger .u64 (trim value).toList with
  | .ok n => some (UInt64.ofNat n.toNat)
  | .error _ => none

/-- A truth value; nothing at all means yes. -/
def readFlag? (value : String) : Option Bool :=
  let word := trim value
  if word = "" || word = "1" then some true
  else if word = "0" then some false
  else if lowerAscii word.toList = "true".toList then some true
  else if lowerAscii word.toList = "false".toList then some false
  else none

/-- What the control parameters say after one more of them. -/
def set (control : Control) (name value : String) : Except QueryError Control :=
  match name with
  | "start" =>
    match readCount? value with
    | some n => .ok { control with start := n }
    | none => .error (.invalidControl name value)
  | "limit" =>
    match readCount? value with
    | some n => if n = 0 then .error (.invalidControl name value) else .ok { control with limit := min n maxLimit }
    | none => .error (.invalidControl name value)
  | "show" => .ok { control with included := control.included ++ entries value }
  | "hide" => .ok { control with excluded := control.excluded ++ entries value }
  | "has" => .ok { control with existing := control.existing ++ entries value }
  | "sort" => .ok { control with sort := control.sort ++ (entries value).map SortKey.read }
  | "timing" =>
    match readFlag? value with
    | some b => .ok { control with timing := b }
    | none => .error (.invalidControl name value)
  | _ => .error (.unknownControl name)

/-- What the control parameters say after more of them; other parameters say nothing. -/
def readFrom (control : Control) : List (String × String) → Except QueryError Control
  | [] => .ok control
  | (param, value) :: params =>
    match name? param with
    | none => readFrom control params
    | some name =>
      match control.set name value with
      | .ok control => readFrom control params
      | .error error => .error error

/-- What the control parameters of a request say. -/
def read (params : List (String × String)) : Except QueryError Control :=
  readFrom default params

/-- Whether a parameter is a control parameter. -/
def isReserved (param : String) : Bool :=
  (name? param).isSome

/-- A list parameter, left out when the list is empty. -/
def writeList (name : String) (items : List String) : List (String × String) :=
  if items.isEmpty then [] else [(name, String.ofList (joinWith ',' (items.map String.toList)))]

/-- Parameters that say the same. -/
def write (control : Control) : List (String × String) :=
  [("c:start", toString control.start.toNat), ("c:limit", toString control.limit.toNat)]
    ++ writeList "c:show" control.included ++ writeList "c:hide" control.excluded
    ++ writeList "c:has" control.existing ++ writeList "c:sort" (control.sort.map SortKey.write)
    ++ [("c:timing", if control.timing then "1" else "0")]

end Control

end SheetQuery.Query
