/-!
# Ordered members

The members of an object, in order. A key that is written again keeps its place; when a member is taken out, the last
member moves into the gap.
-/

namespace SheetQuery

/-- Named values in order. -/
abbrev Members (α : Type) := List (String × α)

namespace Members

variable {α : Type}

/-- The value of the first member with a key. -/
def get? (key : String) : Members α → Option α
  | [] => none
  | (k, v) :: rest => if k = key then some v else get? key rest

/-- The members with a key set to a value: in its place if there is one, else at the end. -/
def insert (key : String) (value : α) : Members α → Members α
  | [] => [(key, value)]
  | (k, v) :: rest => if k = key then (k, value) :: rest else (k, v) :: insert key value rest

/-- The members without a key. The last member takes the place of the one removed. -/
def remove (key : String) : Members α → Members α
  | [] => []
  | (k, v) :: rest =>
    if k = key then
      match rest.getLast? with
      | none => []
      | some last => last :: rest.dropLast
    else (k, v) :: remove key rest

/-- The members with a key changed by a function, which is given `default` when there is none. -/
def update (key : String) (default : α) (change : α → α) : Members α → Members α
  | [] => [(key, change default)]
  | (k, v) :: rest => if k = key then (k, change v) :: rest else (k, v) :: update key default change rest

/-- Members written one after the other. -/
def ofList (entries : List (String × α)) : Members α :=
  entries.foldl (fun members entry => members.insert entry.1 entry.2) []

/-- The keys, in order. -/
def keys (members : Members α) : List String :=
  members.map Prod.fst

end Members

end SheetQuery
