import SheetQuery.Json.Basic
import SheetQuery.Text.Split

/-!
# Dotted paths

A path names a value inside a document by the keys that lead to it, written with points between them. Reading follows
objects only; a document is never changed where the path leaves it.
-/

namespace SheetQuery.Json

/-- The keys of a path. -/
def pathKeys (path : String) : List String :=
  Text.pieces '.' path

/-- The value that keys lead to. -/
def lookupKeys : List String → Json → Option Json
  | [], value => some value
  | key :: keys, value => (value.get? key).bind (lookupKeys keys)

/-- The value at a path. -/
def lookup (path : String) (document : Json) : Option Json :=
  lookupKeys (pathKeys path) document

/-- The document with a value put where keys lead. Objects are made on the way where there is nothing; where there is
something else than an object, the document stays as it is. -/
def insertKeys (value : Json) : List String → Json → Json
  | [], document => document
  | [key], document => document.setMember key value
  | key :: keys, .obj members => .obj (Members.update key (.obj []) (insertKeys value keys) members)
  | _ :: _, document => document

/-- The document with a value put at a path. -/
def insertAt (document : Json) (path : String) (value : Json) : Json :=
  insertKeys value (pathKeys path) document

/-- The members with one of them changed, if it is there. -/
def changeMember (key : String) (change : Json → Json) : List (String × Json) → List (String × Json)
  | [] => []
  | (k, v) :: rest => if k = key then (k, change v) :: rest else (k, v) :: changeMember key change rest

/-- The document without the member that keys lead to, if it is there. -/
def removeKeys : List String → Json → Json
  | [], document => document
  | [key], document => document.dropMember key
  | key :: keys, .obj members => .obj (changeMember key (removeKeys keys) members)
  | _ :: _, document => document

/-- The document without the member at a path. -/
def removeAt (path : String) (document : Json) : Json :=
  removeKeys (pathKeys path) document

end SheetQuery.Json
