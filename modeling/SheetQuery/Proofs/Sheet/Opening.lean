import SheetQuery.Proofs.Sheet.Format
import SheetQuery.Proofs.Sheet.Schema
import SheetQuery.Sheet.Record

/-!
# Opening a sheet

A sheet is opened by its marker and the first of its lines that is not blank, which must be a header that resolves against the
shape. What else a registry has makes no difference to it. The lines after the header are those that are still to be read.
-/

namespace SheetQuery.Sheet

variable {α : Type}

namespace Records

/-- Opening a sheet, step by step, when the shape is prepared anew. -/
theorem start_eq {registry : Registry} (hv : registry.Valid) (shape : Shape α) (bytes : List UInt8) :
    (start shape bytes registry).1 = do
      let lines ← Lines.withHeader bytes
      match lines.next with
      | (none, _) => .error (.ofFault .missingHeader)
      | (some line, rest) => do
        let header ← line
        let prepared ← ShapeSchema.prepare shape.declaration
        let schema ← prepared.resolve header
        return ⟨shape, schema, rest, false⟩ := by
  rw [start]
  cases Lines.withHeader bytes with
  | error error => rfl
  | ok lines =>
    simp only [bind, Except.bind]
    cases hnext : lines.next with
    | mk first rest =>
      match first with
      | none => rfl
      | some (.error error) => rfl
      | some (.ok header) =>
        have hresolve := (Registry.resolve_eq hv shape.toShapeType header).1
        simp only [hresolve]
        cases ShapeSchema.prepare shape.declaration with
        | error error => rfl
        | ok prepared =>
          simp only [Except.bind]
          cases prepared.resolve header <;> rfl

/-- What a sheet that is opened consists of, its marker apart: a header that resolves, and the lines after it. -/
structure Opened (shape : Shape α) (body : List UInt8) (prepared : ShapeSchema) (header : RawLine) (records : Records α) :
    Prop where
  shape_eq : records.shape = shape
  unfinished : records.finished = false
  prepare_eq : ShapeSchema.prepare shape.declaration = .ok prepared
  resolve_eq : prepared.resolve header = .ok records.schema
  lines_eq : (Lines.ofBytes body).toList = (records.lines.number, .ok header) :: records.lines.toList

/-- A sheet that is opened has a marker, a header and the lines after it. -/
theorem exists_opened {shape : Shape α} {bytes : List UInt8} {registry : Registry} (hv : registry.Valid)
    {records : Records α} (h : (start shape bytes registry).1 = .ok records) :
    ∃ body prepared header, bytes = headerMarker :: body ∧ Opened shape body prepared header records := by
  rw [start_eq hv] at h
  obtain ⟨lines, hlines, h⟩ := exists_of_bind_ok h
  obtain ⟨body, rfl, rfl⟩ := Lines.withHeader_eq_ok_iff.1 hlines
  rcases (Lines.ofBytes body).next_cases with ⟨rest, hnext, -, -⟩ | ⟨line, rest, hnext, hcons⟩
  · rw [hnext] at h
    nomatch h
  · rw [hnext] at h
    obtain ⟨header, hheader, hopened⟩ := exists_of_bind_ok h
    obtain ⟨prepared, hprepared, hopened⟩ := exists_of_bind_ok hopened
    obtain ⟨schema, hresolved, hopened⟩ := exists_of_bind_ok hopened
    obtain rfl := Except.ok.inj hopened
    exact ⟨body, prepared, header, rfl, rfl, rfl, hprepared, hresolved, hheader ▸ hcons⟩

/-- The lines after the header are lines of the sheet. -/
theorem Opened.mem_ofBytes {shape : Shape α} {body : List UInt8} {prepared : ShapeSchema} {header : RawLine}
    {records : Records α} (h : Opened shape body prepared header records) {line : Nat × Except SheetError RawLine}
    (hm : line ∈ records.lines.toList) : line ∈ (Lines.ofBytes body).toList :=
  h.lines_eq ▸ List.mem_cons_of_mem _ hm

/-- The cells of the lines after the header come out of lines. -/
theorem Opened.cut {shape : Shape α} {body : List UInt8} {prepared : ShapeSchema} {header : RawLine} {records : Records α}
    (h : Opened shape body prepared header records) {number : Nat} {cells : RawLine}
    (hm : (number, .ok cells) ∈ records.lines.toList) : cells.Cut :=
  Lines.cut_of_mem_numbered (fun _ => lineFeed_not_mem_of_mem_segments) (h.mem_ofBytes hm)

end Records

/-- Reading a sheet at once is reading the lines after its header. -/
theorem decodeAll_eq {registry : Registry} (hv : registry.Valid) (shape : Shape α) (bytes : List UInt8) :
    (decodeAll shape bytes registry).1 = (Records.start shape bytes .empty).1.bind Records.collect := by
  have hstart := Records.start_eq hv shape bytes
  rw [← Records.start_eq Registry.valid_empty] at hstart
  rw [← hstart]
  rfl

end SheetQuery.Sheet
