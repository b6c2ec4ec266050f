/-!
# White space

The characters with the property White_Space, and texts without them at either end.
-/

namespace SheetQuery.Text

/-- The characters with the property White_Space. -/
def isBlank (c : Char) : Bool :=
  let n := c.toNat
  (0x09 ≤ n && n ≤ 0x0d) || n == 0x20 || n == 0x85 || n == 0xa0 || n == 0x1680 || (0x2000 ≤ n && n ≤ 0x200a)
    || n == 0x2028 || n == 0x2029 || n == 0x202f || n == 0x205f || n == 0x3000

/-- A list without those elements at its end that satisfy `p`. -/
def dropEnd {α : Type} (p : α → Bool) (xs : List α) : List α :=
  xs.foldr (fun x kept => if kept.isEmpty && p x then [] else x :: kept) []

/-- A list without those elements at its two ends that satisfy `p`. -/
def dropEnds {α : Type} (p : α → Bool) (xs : List α) : List α :=
  dropEnd p (xs.dropWhile p)

/-- A text without white space at its ends. -/
def trim (s : String) : String :=
  String.ofList (dropEnds isBlank s.toList)

end SheetQuery.Text
