import SheetQuery.Pattern.Automaton
import SheetQuery.Text.Split

/-!
# Choices between literals

Literals to choose from are read as a tree: those that begin alike share their first states. A literal that ends within
another one cuts the tree in two at that place, as what comes before it in the choice is preferred to it, and it to what
comes behind.
-/

namespace SheetQuery.Pattern

open Text

/-- What is left of texts, where it is an end time and again at the front, with a single end there. -/
def dropRepeatedEnds : List (List UInt8) → List (List UInt8)
  | [] :: [] :: rest => dropRepeatedEnds ([] :: rest)
  | texts => texts

/-- The bytes that texts begin with, each once, in order. -/
def firstBytes (texts : List (List UInt8)) : List UInt8 :=
  ((texts.filterMap List.head?).mergeSort (· ≤ ·)).eraseDups

/-- What follows a byte in the texts that begin with it. -/
def following (b : UInt8) (texts : List (List UInt8)) : List (List UInt8) :=
  texts.filterMap fun text =>
    match text with
    | first :: rest => if first = b then some rest else none
    | [] => none

/-- The state that steps over one of several bytes, if there are any. -/
def addEdges : List Edge → Assembly (List Nat)
  | [] => return []
  | [edge] => do return [← addState (.byte edge)]
  | edges => do return [← addState (.bytes edges)]

/-- The states for the runs of texts between those that end here, with the last state for each of these. -/
def addRuns (last : Nat) (edges : List (List UInt8) → Assembly (List Edge)) :
    List (List (List UInt8)) → Assembly (List Nat)
  | [] => return []
  | run :: later => do
    let here ← addEdges (← edges run)
    let ends := if later.isEmpty then [] else [last]
    return here ++ ends ++ (← addRuns last edges later)

/-- The tree of texts, none of which is longer than `depth`, by the number of its first state. -/
def addTree (last : Nat) : Nat → List (List UInt8) → Assembly Nat
  | 0, _ => return last
  | depth + 1, texts => do
    let edges (run : List (List UInt8)) : Assembly (List Edge) :=
      (firstBytes run).mapM fun b => do
        let rest := following b run
        return ⟨.single b, ← if rest.all List.isEmpty then pure last else addTree last depth rest⟩
    addState (.split (← addRuns last edges (splitOn [] (dropRepeatedEnds texts))).toArray)

/-- A choice between texts, one of which is matched. -/
def choiceOfTexts (texts : List (List UInt8)) : Assembly Fragment := do
  let last ← addState (.pass 0)
  let depth := (texts.map List.length).foldl max 0
  return ⟨← addTree last (depth + 1) texts, last⟩

end SheetQuery.Pattern
