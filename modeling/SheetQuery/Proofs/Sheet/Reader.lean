import Mathlib.Data.List.Forall2
import SheetQuery.Proofs.Sheet.Cell

/-!
# Reading the slots of a line

The reader that matches a field takes every value that the field admits and gives it back unchanged, so that readers that
match the fields one by one read a whole line of such values. A shape that puts its records together with such readers then
has nothing to object to in such a line, and a line without gaps reads back as one.
-/

namespace SheetQuery.Sheet

open Decimal

variable {α : Type}

/-! ## Readers and fields -/

/-- Whether a reader matches the type of a field and whether it takes null. A reader of names may know more of them than
the field declares, and it never takes null. -/
def SlotReader.Matches (reader : SlotReader) (field : Field) : Prop :=
  reader.optional = field.nullable ∧
    match reader, field.type with
    | .int width _, .int declared => width = declared
    | .double _, .double | .double _, .decimal => True
    | .single _, .single => True
    | .bool _, .bool => True
    | .text _, .text => True
    | .member known, .enum members => members.length ≤ known
    | _, _ => False

/-- Whether a field admits a value: null where it takes null, and values of its type. -/
def Field.Admits (field : Field) (value : SlotValue) : Prop :=
  value = .null ∧ field.nullable = true ∨ field.type.Holds value

/-- Whether the records of a shape are put together by readers that match its fields, one after the other, and are taken
apart into the values that were read. -/
structure Shape.ReadBy (shape : Shape α) (readers : List SlotReader) : Prop where
  matching : List.Forall₂ SlotReader.Matches readers shape.declaration.fields
  reads : ∀ values, shape.toSlots <$> shape.build values = (Shape.ofReaders shape.declaration readers).build values

/-- Whether sheets of a shape can be written and read back: the shape can be prepared, its names can stand in cells, and its
records are put together by readers that match its fields. -/
structure Shape.Encodable (shape : Shape α) (schema : ShapeSchema) (readers : List SlotReader) : Prop where
  prepared : ShapeSchema.prepare shape.declaration = .ok schema
  named : ∀ field ∈ shape.declaration.fields, field.Named
  readBy : shape.ReadBy readers

/-- Whether every slot of a record has null or a value of the type of its field. -/
def Shape.FitsAll (shape : Shape α) (record : α) : Prop :=
  List.Forall₂ Field.Fits shape.declaration.fields (shape.toSlots record)

/-- The field of the first gap of a record. -/
def Shape.gap (shape : Shape α) (record : α) : Option Field :=
  firstGap shape.declaration.fields (shape.toSlots record)

/-! ## One slot -/

namespace Slots

/-- What is read next after a reader that has an answer. -/
theorem bind_ok {β : Type} {reader : Read α} {slots left : Slots} {answer : α} (h : reader slots = (.ok answer, left))
    (next : α → Read β) : (reader >>= next) slots = next answer left := by
  have hrun : (reader >>= next) slots = (ExceptT.bindCont next (reader slots).1 : StateM Slots _) (reader slots).2 := rfl
  rw [hrun, h]
  rfl

/-- A reader whose answer is changed afterwards leaves the same slots. -/
theorem map_apply {β : Type} (f : α → β) (reader : Read α) (slots : Slots) :
    (f <$> reader) slots = (f <$> (reader slots).1, (reader slots).2) := by
  have hrun : (reader >>= fun answer => pure (f answer)) slots =
    (ExceptT.bindCont (fun answer => pure (f answer)) (reader slots).1 : StateM Slots _) (reader slots).2 := rfl
  rw [map_eq_pure_bind, hrun]
  cases (reader slots).1 <;> rfl

/-- Takes the next value, whatever the judgement says of it. -/
theorem take_cons (judge : SlotValue → Except String α) (declaration : Declaration) (value : SlotValue)
    (rest : List SlotValue) (position : Nat) :
    take judge ⟨declaration, value :: rest, position⟩ =
      (match judge value with
        | .ok answer => .ok answer
        | .error wanted => .error (.ofFault (.slotMismatch declaration.shape (fieldName declaration position)
            (.expected wanted value.kind))),
        ⟨declaration, rest, position + 1⟩) := by
  have hrun : take judge ⟨declaration, value :: rest, position⟩ =
      (match judge value with
        | .ok answer => pure answer
        | .error wanted => mismatch declaration (fieldName declaration position) (.expected wanted value.kind) : Read α)
        ⟨declaration, rest, position + 1⟩ := rfl
  rw [hrun]
  cases judge value <;> rfl

/-- Takes a value that the judgement accepts. -/
theorem take_ok {judge : SlotValue → Except String α} {value : SlotValue} {answer : α} (h : judge value = .ok answer)
    (declaration : Declaration) (rest : List SlotValue) (position : Nat) :
    take judge ⟨declaration, value :: rest, position⟩ = (.ok answer, ⟨declaration, rest, position + 1⟩) := by
  rw [take_cons, h]

/-- Null is no value for any other judgement. -/
theorem orNull_of_ne {judge : SlotValue → Except String α} {value : SlotValue} (h : value ≠ .null) :
    orNull judge value = some <$> judge value := by
  cases value with
  | null => exact absurd rfl h
  | _ => rfl

/-- An integer of a width is accepted by the judgement of the width. -/
theorem asInteger_ofInt {width : IntWidth} {i : Int} (h : width.holds i = true) :
    asInteger width (.ofInt width i) = .ok i := by
  cases hs : width.signed with
  | true => rw [SlotValue.ofInt, if_pos hs, asInteger, toInt_ofInt hs h, inWidth, if_pos h]
  | false =>
    rw [SlotValue.ofInt, hs, if_neg Bool.false_ne_true, asInteger, toNat_ofNat hs h, inWidth, if_pos h]

end Slots

namespace SlotReader

open Slots

/-- A reader gives a value of the type of its field back unchanged. -/
theorem judge_holds {reader : SlotReader} {field : Field} (hm : reader.Matches field) {value : SlotValue}
    (h : field.type.Holds value) : reader.judge value = .ok value := by
  obtain ⟨name, type, nullable⟩ := field
  obtain ⟨-, hm⟩ := hm
  cases type with
  | bool =>
    cases reader with
    | bool =>
      cases value with
      | bool => rfl
      | _ => nomatch h
    | _ => nomatch hm
  | int declared =>
    cases reader with
    | int width =>
      obtain ⟨i, hi, rfl⟩ := h
      obtain rfl : width = declared := hm
      rw [judge, asInteger_ofInt hi]
      rfl
    | _ => nomatch hm
  | single =>
    cases reader with
    | single =>
      cases value with
      | float x => exact congrArg (Except.ok ∘ SlotValue.float) h
      | _ => nomatch h
    | _ => nomatch hm
  | double =>
    cases reader with
    | double =>
      cases value with
      | float => rfl
      | _ => nomatch h
    | _ => nomatch hm
  | decimal =>
    cases reader with
    | double =>
      cases value with
      | float => rfl
      | _ => nomatch h
    | _ => nomatch hm
  | text =>
    cases reader with
    | text =>
      cases value with
      | text => rfl
      | _ => nomatch h
    | _ => nomatch hm
  | enum members =>
    cases reader with
    | member known =>
      cases value with
      | enum index =>
        have hindex : index < known := Nat.lt_of_lt_of_le h hm
        rw [judge, asMember, if_pos hindex]
        rfl
      | _ => nomatch h
    | _ => nomatch hm
  | list element => cases reader <;> nomatch hm

/-- A reader takes what its field admits and gives it back unchanged. -/
theorem read_of_admits {reader : SlotReader} {field : Field} (hm : reader.Matches field) {value : SlotValue}
    (h : field.Admits value) (declaration : Declaration) (rest : List SlotValue) (position : Nat) :
    reader.read ⟨declaration, value :: rest, position⟩ = (.ok value, ⟨declaration, rest, position + 1⟩) := by
  rw [read]
  split
  · by_cases hnull : value = .null
    · have hjudge : orNull reader.judge .null = .ok none := rfl
      rw [hnull, map_apply, take_ok hjudge]
      rfl
    · have hholds : field.type.Holds value := h.resolve_left fun hn => hnull hn.1
      have hjudge : orNull reader.judge value = .ok (some value) := by
        rw [orNull_of_ne hnull, judge_holds hm hholds]
        rfl
      rw [map_apply, take_ok hjudge]
      rfl
  · rename_i hopt
    have hholds : field.type.Holds value := h.resolve_left fun hn => hopt (hm.1.trans hn.2)
    exact take_ok (judge_holds hm hholds) declaration rest position

/-- Readers that match the fields read a line of values that the fields admit. -/
theorem readAll_of_admits {readers : List SlotReader} {fields : List Field} (hm : List.Forall₂ Matches readers fields)
    {values : List SlotValue} (h : List.Forall₂ Field.Admits fields values) (declaration : Declaration) (position : Nat) :
    readAll readers ⟨declaration, values, position⟩ = (.ok values, ⟨declaration, [], position + values.length⟩) := by
  induction hm generalizing values position with
  | nil =>
    cases h
    rfl
  | @cons reader field readers fields hreader hm ih =>
    cases h with
    | @cons _ value _ values hvalue h =>
      have hread := read_of_admits hreader hvalue declaration values position
      have hrest := ih h (position + 1)
      rw [readAll, bind_ok hread, bind_ok hrest, List.length_cons, Nat.add_assoc, Nat.add_comm 1]
      rfl

end SlotReader

/-! ## One record -/

/-- What is read back of a value is admitted by its field, unless the field must have a value and there is none. -/
theorem Field.admits_readBack {field : Field} {value : SlotValue} (hf : field.Fits value)
    (hg : field.isGap value = false) : field.Admits value.readBack := by
  by_cases hnull : value.readBack = .null
  · refine .inl ⟨hnull, ?_⟩
    rw [Field.isGap, hnull] at hg
    simpa [SlotValue.isNull] using hg
  · have hsame : value.readBack = value := by
      refine readBack_eq_self fun e => hnull ?_
      rw [e, SlotValue.readBack, if_pos rfl]
    rw [hsame] at hnull ⊢
    rcases hf with h | h
    · exact absurd h hnull
    · exact .inr h.1

/-- What is read back of a line without gaps is admitted by its fields. -/
theorem admits_readBack_all {fields : List Field} {values : List SlotValue} (hf : List.Forall₂ Field.Fits fields values)
    (hg : firstGap fields values = none) : List.Forall₂ Field.Admits fields (values.map SlotValue.readBack) := by
  induction hf with
  | nil => exact .nil
  | cons hfit _ ih =>
    rw [firstGap] at hg
    split at hg
    · nomatch hg
    · rename_i hgap
      exact .cons (Field.admits_readBack hfit (by simpa using hgap)) (ih hg)

/-- A record is put together from values that its fields admit, and it is taken apart into the same values. -/
theorem Shape.ReadBy.build_of_admits {shape : Shape α} {readers : List SlotReader} (hr : shape.ReadBy readers)
    {values : List SlotValue} (h : List.Forall₂ Field.Admits shape.declaration.fields values) :
    ∃ record, shape.build values = .ok record ∧ shape.toSlots record = values := by
  have hread := SlotReader.readAll_of_admits hr.matching h shape.declaration 0
  have hbuild := hr.reads values
  have hlist : (Shape.ofReaders shape.declaration readers).build values = .ok values := congrArg Prod.fst hread
  rw [hlist] at hbuild
  cases hb : shape.build values with
  | error e => rw [hb] at hbuild; nomatch hbuild
  | ok record =>
    rw [hb] at hbuild
    exact ⟨record, rfl, Except.ok.inj hbuild⟩

/-- A record is put together from a line without gaps, and it is taken apart into the values of the line. -/
theorem Shape.ReadBy.build_readBack {shape : Shape α} {readers : List SlotReader} (hr : shape.ReadBy readers)
    {values : List SlotValue} (hf : List.Forall₂ Field.Fits shape.declaration.fields values)
    (hg : firstGap shape.declaration.fields values = none) :
    ∃ record, shape.build (values.map SlotValue.readBack) = .ok record ∧
      shape.toSlots record = values.map SlotValue.readBack :=
  hr.build_of_admits (admits_readBack_all hf hg)

end SheetQuery.Sheet
