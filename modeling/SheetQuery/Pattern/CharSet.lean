import SheetQuery.Text.Folding
import SheetQuery.Text.Numerals
import SheetQuery.Text.Words

/-!
# Sets of characters

The characters that a class of a pattern stands for, built from intervals by the operations that a class can be written
with. A set is kept in one form: its intervals are in order, and no two of them touch.
-/

namespace SheetQuery.Pattern

open Text

/-- A set of characters: closed intervals of code points in increasing order, with a character between any two. -/
structure CharSet where
  intervals : CodePoints
  deriving Repr, DecidableEq

namespace CharSet

/-- Whether a code point is in a set. -/
def holds (set : CharSet) (n : Nat) : Bool :=
  set.intervals.any fun interval => interval.1 ≤ n && n ≤ interval.2

/-- The set without a character. -/
def none : CharSet := ⟨[]⟩

/-- The characters from one to another. -/
def interval (first last : Nat) : CharSet := ⟨[(first, last)]⟩

/-- One character. -/
def single (c : Char) : CharSet := interval c.toNat c.toNat

/-- The last character of all. -/
def lastPoint : Nat := 0x10ffff

/-- The code point of the character after another one: the surrogates are none. -/
def next (n : Nat) : Nat :=
  if n = 0xd7ff then 0xe000 else n + 1

/-- The code point of the character before another one. -/
def previous (n : Nat) : Nat :=
  if n = 0xe000 then 0xd7ff else n - 1

/-- Intervals in order, joined where they touch. -/
def joinTouching : CodePoints → CodePoints
  | (a, b) :: (c, d) :: rest =>
    if c ≤ b + 1 then joinTouching ((a, max b d) :: rest) else (a, b) :: joinTouching ((c, d) :: rest)
  | short => short
  termination_by intervals => intervals.length

/-- The union of intervals in any order. -/
def ofIntervals (intervals : CodePoints) : CharSet :=
  ⟨joinTouching (intervals.mergeSort fun a b => a.1 ≤ b.1)⟩

/-- What is in one of two sets. -/
def union (a b : CharSet) : CharSet :=
  ofIntervals (a.intervals ++ b.intervals)

/-- The overlaps of intervals in order with others in order. -/
def overlaps : CodePoints → CodePoints → CodePoints
  | (a, b) :: xs, (c, d) :: ys =>
    let overlap := if max a c ≤ min b d then [(max a c, min b d)] else []
    overlap ++ if b < d then overlaps xs ((c, d) :: ys) else overlaps ((a, b) :: xs) ys
  | _, _ => []
  termination_by xs ys => xs.length + ys.length

/-- What is in both of two sets. -/
def both (a b : CharSet) : CharSet :=
  ⟨overlaps a.intervals b.intervals⟩

/-- What intervals in order leave of others in order. -/
def remains : CodePoints → CodePoints → CodePoints
  | (a, b) :: xs, (c, d) :: ys =>
    if d < a then remains ((a, b) :: xs) ys
    else if b < c then (a, b) :: remains xs ((c, d) :: ys)
    else
      let before := if a < c then [(a, previous c)] else []
      before ++ if d < b then remains ((next d, b) :: xs) ys else remains xs ((c, d) :: ys)
  | xs, _ => xs
  termination_by xs ys => xs.length + ys.length

/-- What is in the first set and not in the second. -/
def difference (a b : CharSet) : CharSet :=
  ⟨remains a.intervals b.intervals⟩

/-- What is in exactly one of two sets. -/
def oneOf (a b : CharSet) : CharSet :=
  difference (union a b) (both a b)

/-- Two ends as an interval, whichever is the lower. -/
def ordered (a b : Nat) : Nat × Nat :=
  (min a b, max a b)

/-- What lies behind the first of the intervals and in none of them. Where nothing but the surrogates lies between two
intervals, the ends of these count as what does. -/
def gaps : CodePoints → CodePoints
  | (_, b) :: (c, d) :: rest => ordered (next b) (previous c) :: gaps ((c, d) :: rest)
  | [(_, b)] => if b < lastPoint then [(next b, lastPoint)] else []
  | [] => []

/-- What is not in a set. -/
def complement (set : CharSet) : CharSet :=
  match set.intervals with
  | [] => ⟨[(0, lastPoint)]⟩
  | (a, b) :: rest => ⟨(if 0 < a then [(0, previous a)] else []) ++ gaps ((a, b) :: rest)⟩

/-- The set with all characters that differ from one of it by case alone. -/
def folded (set : CharSet) : CharSet :=
  let images := union set (ofIntervals (set.intervals.flatMap fun (a, b) => (imagesOf a b).map fun n => (n, n)))
  union images (ofIntervals (images.intervals.flatMap fun (a, b) => (sourcesOf a b).map fun n => (n, n)))

/-- The only character of a set, if it has just one. -/
def only? (set : CharSet) : Option Char :=
  match set.intervals with
  | [(a, b)] => if a = b then some (Char.ofNat a) else Option.none
  | _ => Option.none

/-- Whether all characters of a set are in the ASCII set. -/
def isAscii (set : CharSet) : Bool :=
  set.intervals.all fun interval => interval.2 < 0x80

/-- The letters, digits and so on of the ASCII set, by the names that classes in brackets and colons have. -/
def ascii? (name : String) : Option CharSet :=
  let lower := (0x61, 0x7a)
  let upper := (0x41, 0x5a)
  let digit := (0x30, 0x39)
  match name with
  | "alnum" => some ⟨[digit, upper, lower]⟩
  | "alpha" => some ⟨[upper, lower]⟩
  | "ascii" => some ⟨[(0x00, 0x7f)]⟩
  | "blank" => some ⟨[(0x09, 0x09), (0x20, 0x20)]⟩
  | "cntrl" => some ⟨[(0x00, 0x1f), (0x7f, 0x7f)]⟩
  | "digit" => some ⟨[digit]⟩
  | "graph" => some ⟨[(0x21, 0x7e)]⟩
  | "lower" => some ⟨[lower]⟩
  | "print" => some ⟨[(0x20, 0x7e)]⟩
  | "punct" => some ⟨[(0x21, 0x2f), (0x3a, 0x40), (0x5b, 0x60), (0x7b, 0x7e)]⟩
  | "space" => some ⟨[(0x09, 0x0d), (0x20, 0x20)]⟩
  | "upper" => some ⟨[upper]⟩
  | "word" => some ⟨[digit, upper, (0x5f, 0x5f), lower]⟩
  | "xdigit" => some ⟨[digit, (0x41, 0x46), (0x61, 0x66)]⟩
  | _ => Option.none

/-- The characters that make up words. -/
def word : CharSet := ⟨wordCharacters⟩

/-- The decimal digits of every script. -/
def digit : CharSet := ⟨decimalDigits⟩

/-- White space. -/
def blank : CharSet :=
  ⟨[(0x09, 0x0d), (0x20, 0x20), (0x85, 0x85), (0xa0, 0xa0), (0x1680, 0x1680), (0x2000, 0x200a), (0x2028, 0x2029),
    (0x202f, 0x202f), (0x205f, 0x205f), (0x3000, 0x3000)]⟩

end CharSet

end SheetQuery.Pattern
