/-!
# Sets of code points

A property of characters is a list of closed intervals of code points. Membership is a search through the list: the
texts this library reads are short, and a list of intervals is the form in which such properties are published.
-/

namespace SheetQuery.Text

/-- A set of characters, as closed intervals of code points. -/
abbrev CodePoints := List (Nat × Nat)

/-- A character is in the set when one of the intervals holds its code point. -/
def CodePoints.holds (set : CodePoints) (c : Char) : Bool :=
  set.any fun interval => interval.1 ≤ c.toNat && c.toNat ≤ interval.2

/-- A change of characters by a fixed distance: of every code point from `first` to `last` that is a multiple of `step`
away from `first`, the image lies `distance` further on. -/
structure Shift where
  first : Nat
  last : Nat
  step : Nat
  distance : Int

/-- A shift moves the code points of its progression and no other. -/
def Shift.covers (s : Shift) (n : Nat) : Bool :=
  s.first ≤ n && n ≤ s.last && (n - s.first) % s.step == 0

/-- The code points from `a` to `b` that a shift moves. -/
def Shift.sourcesWithin (s : Shift) (a b : Int) : List Nat :=
  if b < s.first || s.last < a then []
  else
    let sources := (List.range ((s.last - s.first) / s.step + 1)).map (s.first + s.step * ·)
    sources.filter fun n => a ≤ n && n ≤ b

/-- The image of a code point under the first shift that covers it, or the code point itself. -/
def Shift.image (shifts : List Shift) (n : Nat) : Nat :=
  match shifts.find? (·.covers n) with
  | some s => (n + s.distance).toNat
  | none => n

end SheetQuery.Text
