/-!
# Splitting at a separator

A text cut at every occurrence of a character has one piece more than the character has occurrences; joining the pieces
gives the text back.
-/

namespace SheetQuery.Text

/-- The pieces of a list between the occurrences of `sep`, the empty ones included. -/
def splitOn {α : Type} [DecidableEq α] (sep : α) : List α → List (List α)
  | [] => [[]]
  | x :: rest =>
    if x = sep then [] :: splitOn sep rest
    else match splitOn sep rest with
      | [] => [[x]]
      | piece :: pieces => (x :: piece) :: pieces

/-- The pieces put together again with `sep` between them. -/
def joinWith {α : Type} (sep : α) : List (List α) → List α
  | [] => []
  | [piece] => piece
  | piece :: pieces => piece ++ sep :: joinWith sep pieces

theorem splitOn_ne_nil {α : Type} [DecidableEq α] (sep : α) (xs : List α) : splitOn sep xs ≠ [] := by
  cases xs with
  | nil => simp [splitOn]
  | cons x rest =>
    unfold splitOn
    split
    · simp
    · split <;> simp

/-- The pieces of a text between the occurrences of a character. -/
def pieces (sep : Char) (s : String) : List String :=
  (splitOn sep s.toList).map String.ofList

end SheetQuery.Text
