/-!
# Stable sorting

A list is sorted by taking its items one after the other and moving each forward past those that it comes before. Items
of which neither comes before the other keep their order. What comes before what need not be an order.
-/

namespace SheetQuery

variable {α : Type}

/-- Puts an item into a list that is sorted from the last to the first, before everything that it does not come before. -/
def insertFromLast (less : α → α → Bool) (item : α) : List α → List α
  | [] => [item]
  | last :: rest => if less item last then last :: insertFromLast less item rest else item :: last :: rest

/-- The items sorted so far, from the last to the first, with more items put among them. -/
def insertAll (less : α → α → Bool) (sorted items : List α) : List α :=
  items.foldl (fun sorted item => insertFromLast less item sorted) sorted

/-- Sorts a list by a relation that says which of two items comes before the other. -/
def stableSort (less : α → α → Bool) (items : List α) : List α :=
  (insertAll less [] items).reverse

end SheetQuery
