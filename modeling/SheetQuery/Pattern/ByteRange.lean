import SheetQuery.Pattern.CharSet

/-!
# Characters as bytes

The characters between two code points, as the UTF-8 of each of them: a list of sequences of byte ranges, such that a
character is in the interval when its bytes are in the ranges of one sequence. The sequences are in order, and each is as
long as the interval allows.
-/

namespace SheetQuery.Pattern

open Text

/-- The bytes from one to another. -/
structure ByteRange where
  first : UInt8
  last : UInt8
  deriving Repr, DecidableEq

/-- Whether a byte is in a range. -/
def ByteRange.holds (range : ByteRange) (b : UInt8) : Bool :=
  range.first ≤ b && b ≤ range.last

/-- One byte. -/
def ByteRange.single (b : UInt8) : ByteRange := ⟨b, b⟩

/-- The characters by the number of their bytes, the surrogates left out. -/
def pointsByWidth : CodePoints :=
  [(0x0, 0x7f), (0x80, 0x7ff), (0x800, 0xd7ff), (0xe000, 0xffff), (0x10000, 0x10ffff)]

/-- How many characters differ in their last byte alone, in their last two, and in their last three. -/
def blockSizes : List Nat := [64, 4096, 262144]

/-- An interval cut where a block of a given size begins or ends that it holds in part, one size after the other. -/
def alignedPieces : List Nat → Nat → Nat → CodePoints
  | [], a, b => [(a, b)]
  | size :: sizes, a, b =>
    if a / size = b / size then [(a, b)]
    else
      let start := if a % size = 0 then a else (a / size + 1) * size
      let stop := if b % size = size - 1 then b + 1 else b / size * size
      (if a < start then [(a, start - 1)] else [])
        ++ (if start < stop then alignedPieces sizes start (stop - 1) else [])
        ++ if stop ≤ b then [(stop, b)] else []

/-- The ranges between the bytes of two characters that have equally many. -/
def rangesBetween (a b : Nat) : List ByteRange :=
  List.zipWith ByteRange.mk (String.utf8EncodeChar (Char.ofNat a)) (String.utf8EncodeChar (Char.ofNat b))

/-- The sequences of byte ranges for an interval. -/
def byteSequences (interval : Nat × Nat) : List (List ByteRange) :=
  (CharSet.overlaps [interval] pointsByWidth).flatMap fun (a, b) =>
    (alignedPieces blockSizes a b).map fun (a, b) => rangesBetween a b

end SheetQuery.Pattern
