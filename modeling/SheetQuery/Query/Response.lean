import SheetQuery.Json.Basic

/-!
# Answers

A page of documents is answered under the name of its collection, with the number of documents and, if asked for, the
time they took in milliseconds.
-/

namespace SheetQuery.Query

open Decimal

/-- A number of nanoseconds in milliseconds, each step rounded to 64-bit floating point. -/
def milliseconds (nanoseconds : Nat) : Double :=
  match Binary.nearest .double false nanoseconds 1 with
  | .finite x => Binary.nearest .double false x.units (twoTo FloatFormat.double.unitExponent * 1000000)
  | other => other

/-- A page of items. -/
structure Response where
  name : String
  items : List Json
  /-- The time in nanoseconds, if it is told. -/
  elapsed : Option Nat

namespace Response

/-- The member that has the items. -/
def listName (response : Response) : String :=
  response.name ++ "_list"

/-- The body of the answer. -/
def body (response : Response) : Json :=
  .obj ([(response.listName, .arr response.items), ("returned", .ofNat response.items.length)]
    ++ response.elapsed.toList.map fun n => ("timing", .ofDouble (milliseconds n)))

end Response

/-- What a plan gave, and the time it took in nanoseconds. -/
structure Outcome where
  documents : List Json
  elapsed : Nat

/-- The answer to a request for a collection. -/
def Outcome.response (outcome : Outcome) (collection : String) (timing : Bool) : Response :=
  ⟨collection, outcome.documents, if timing then some outcome.elapsed else none⟩

/-- A collection and the number of its documents. -/
structure Datatype where
  name : String
  count : Nat
  deriving Repr, DecidableEq

/-- The entry of a collection in a listing. -/
def Datatype.json (datatype : Datatype) : Json :=
  .obj [("name", .str datatype.name), ("count", .ofNat datatype.count)]

/-- The body that tells a number of collections. -/
def countBody (count : Nat) : Json :=
  .obj [("count", .ofNat count)]

/-- The body that tells an error and its status. -/
def errorBody (message : String) (status : Nat) : Json :=
  .obj [("error", .str message), ("code", .ofNat status)]

end SheetQuery.Query
