import SheetQuery.Sheet.Error
import SheetQuery.Text.Split
import SheetQuery.Text.Utf8

/-!
# Lines of a sheet

A sheet is bytes in lines. Each line ends in a line feed, which a carriage return may precede; blank lines count but are
passed over. The cells of a line stand between carets, and one caret at the end of the line opens no further cell. A cell
without text is empty.
-/

namespace SheetQuery.Sheet

open Text

/-- The byte that a sheet with a header begins with. -/
def headerMarker : UInt8 := 35

/-- The byte between cells. -/
def caret : UInt8 := 94

/-- The byte that ends a line. -/
def lineFeed : UInt8 := 10

/-- The byte that may stand before the one that ends a line. -/
def carriageReturn : UInt8 := 13

/-- The cells of a line. -/
abbrev RawLine := List (Option String)

/-- The bytes between line feeds. Bytes after the last line feed are a line too. -/
def segments : List UInt8 → List (List UInt8)
  | [] => []
  | b :: rest =>
    if b = lineFeed then [] :: segments rest
    else match segments rest with
      | [] => [[b]]
      | line :: lines => (b :: line) :: lines

/-- A list without its last element, if that is the given one. -/
def withoutLast (b : UInt8) (line : List UInt8) : List UInt8 :=
  if line.getLast? = some b then line.dropLast else line

/-- A cell with a text, or an empty one. -/
def cellOf (cell : List Char) : Option String :=
  if cell.isEmpty then none else some (String.ofList cell)

/-- The cells of the line with a number, whose content is given. -/
def splitCells (number : Nat) (content : List UInt8) : Except SheetError RawLine :=
  match decodeFrom 0 (withoutLast caret content) with
  | .ok chars => .ok ((splitOn '^' chars).map cellOf)
  | .error cause => .error (.ofFault (.invalidEncoding number cause))

/-- The lines that are still to be read, and the number of the line read last. -/
structure Lines where
  rest : List (List UInt8)
  number : Nat
  deriving Repr

namespace Lines

/-- All lines of a sheet. -/
def ofBytes (bytes : List UInt8) : Lines :=
  ⟨segments bytes, 0⟩

/-- All lines of a sheet that must begin with the marker, which is no part of the first line. -/
def withHeader (bytes : List UInt8) : Except SheetError Lines :=
  match bytes with
  | b :: rest => if b = headerMarker then .ok (ofBytes rest) else .error (.ofFault .missingHeader)
  | [] => .error (.ofFault .missingHeader)

/-- The next line that is not blank, with its number, and the lines after it. -/
def nextFrom (number : Nat) : List (List UInt8) → Option (Except SheetError RawLine) × Lines
  | [] => (none, ⟨[], number⟩)
  | line :: rest =>
    let content := withoutLast carriageReturn line
    if content.isEmpty then nextFrom (number + 1) rest
    else (some (splitCells (number + 1) content), ⟨rest, number + 1⟩)

/-- The next line that is not blank, and the lines after it. -/
def next (lines : Lines) : Option (Except SheetError RawLine) × Lines :=
  nextFrom lines.number lines.rest

/-- The lines that are not blank, with their numbers, when the line before them has the given number. -/
def numbered (number : Nat) : List (List UInt8) → List (Nat × Except SheetError RawLine)
  | [] => []
  | line :: rest =>
    let content := withoutLast carriageReturn line
    if content.isEmpty then numbered (number + 1) rest
    else (number + 1, splitCells (number + 1) content) :: numbered (number + 1) rest

/-- The lines that are not blank, with their numbers. -/
def toList (lines : Lines) : List (Nat × Except SheetError RawLine) :=
  numbered lines.number lines.rest

/-- The number of the last line. -/
def lastNumber (lines : Lines) : Nat :=
  lines.number + lines.rest.length

end Lines

end SheetQuery.Sheet
