import Mathlib.Data.List.Nodup
import SheetQuery.Proofs.Decimal.Notation
import SheetQuery.Proofs.Sheet.Line

/-!
# Written cells read back

A value of the type of its field is written as a text without a separator, and the converter of the field reads the value
back from that text. The one text that does not come back is the empty one: an empty cell is null, so a field that does
not take null has no value then.

That a floating-point number reads back from its shortest text is taken here as a condition on the number (`PrintsBack`).
-/

namespace SheetQuery.Sheet

open Decimal Text

/-! ## Values of a type -/

/-- Whether a number reads back from the text that is written for it. -/
def ReadsBack {format : FloatFormat} (x : Binary format) : Prop :=
  readNumber format (cellStyle.text x) = .ok x

/-- Whether a value other than null is one of a type. A number of 32 bits is held as one of 64 bits that has the same
value in 32 bits. -/
def FieldType.Holds : FieldType → SlotValue → Prop
  | .bool, .bool _ => True
  | .int width, value => ∃ i, width.holds i = true ∧ value = .ofInt width i
  | .single, .float x => (x.convert .single).convert .double = x
  | .double, .float _ => True
  | .decimal, .float _ => True
  | .text, .text _ => True
  | .enum members, .enum index => index < members.length
  | _, _ => False

/-- Whether a value, if it is a floating-point number, reads back from the text that is written for it in a field. -/
def FieldType.PrintsBack : FieldType → SlotValue → Prop
  | .single, .float x => ReadsBack (x.convert .single)
  | _, .float x => ReadsBack x
  | _, _ => True

/-- Whether a value, if it is a text, can stand in a cell. -/
def SlotValue.Writable : SlotValue → Prop
  | .text s => isCellText s = true
  | _ => True

/-- Whether a value can be written into a field and read back from it: null, or a value of the type of the field. -/
def Field.Fits (field : Field) (value : SlotValue) : Prop :=
  value = .null ∨ field.type.Holds value ∧ field.type.PrintsBack value ∧ value.Writable

/-- What is read back of a value: an empty text is null. -/
def SlotValue.readBack : SlotValue → SlotValue
  | .text s => if s = "" then .null else .text s
  | value => value

/-- Whether a field must have a value and an empty cell is written for it. -/
def Field.isGap (field : Field) (value : SlotValue) : Bool :=
  !field.nullable && value.readBack.isNull

/-- The first field of a line that must have a value and has none. -/
def firstGap : List Field → List SlotValue → Option Field
  | field :: fields, value :: values => if field.isGap value then some field else firstGap fields values
  | _, _ => none

/-- The names that a type has, if it is an enumeration. -/
def FieldType.members : FieldType → List String
  | .enum members => members
  | _ => []

/-- What the names of a field must be like: its own and those of its members are not empty and can stand in cells, and no two
of its members have the same. -/
def Field.Named (field : Field) : Prop :=
  (∀ name ∈ field.name :: field.type.members, name ≠ "" ∧ isCellText name = true) ∧ field.type.members.Nodup

instance (field : Field) : Decidable field.Named :=
  inferInstanceAs (Decidable (_ ∧ _))

/-- A value that is no empty text is read back as it is. -/
theorem readBack_eq_self {value : SlotValue} (h : value ≠ .text "") : value.readBack = value := by
  cases value with
  | text s =>
    have hne : s ≠ "" := fun e => h (congrArg SlotValue.text e)
    rw [SlotValue.readBack, if_neg hne]
  | _ => rfl

/-! ## Numbers in cells -/

/-- The text of a number can stand in a cell. -/
theorem isCellText_of_isNumberText {text : String} (h : IsNumberText text.toList) : isCellText text = true := by
  refine isCellText_iff.2 fun c hc => ⟨?_, ?_, ?_⟩
  · rintro rfl
    exact absurd (h.2 _ hc) (by decide)
  · rintro rfl
    exact absurd (h.2 _ hc) (by decide)
  · rintro rfl
    exact absurd (h.2 _ hc) (by decide)

/-- The text of a number is not the empty cell. -/
theorem ne_empty_of_isNumberText {text : String} (h : IsNumberText text.toList) : text ≠ "" := by
  rintro rfl
  exact h.1 rfl

/-- The cell of a text that is not empty. -/
theorem cellOf_toList {text : String} (h : text ≠ "") : cellOf text.toList = some text := by
  have hne : text.toList.isEmpty = false := by simpa [List.isEmpty_iff] using h
  rw [cellOf, hne, String.ofList_toList]
  rfl

/-- An integer of a width in its slot is written as the text of the integer. -/
theorem cellText_ofInt (shape : String) (field : Field) {width : IntWidth} {i : Int} (h : width.holds i = true) :
    cellText shape field (.ofInt width i) = .ok (toString i) := by
  cases hs : width.signed with
  | true => rw [SlotValue.ofInt, if_pos hs, cellText, toInt_ofInt hs h]
  | false =>
    have htext : toString (UInt64.ofNat i.toNat).toNat = toString ((UInt64.ofNat i.toNat).toNat : Int) := rfl
    rw [SlotValue.ofInt, hs, if_neg Bool.false_ne_true, cellText, htext, toNat_ofNat hs h]

/-- An integer in its slot is no empty text. -/
theorem readBack_ofInt (width : IntWidth) (i : Int) : (SlotValue.ofInt width i).readBack = .ofInt width i := by
  rw [SlotValue.ofInt]
  split <;> rfl

theorem isNull_ofInt (width : IntWidth) (i : Int) : (SlotValue.ofInt width i).isNull = false := by
  rw [SlotValue.ofInt]
  split <;> rfl

/-! ## One cell -/

/-- Whether a text is what a value is written as: it can stand in a cell, it is empty where a value must not be null and is,
and the converter reads from it the value that is read back. -/
def Field.WrittenAs (shape : String) (field : Field) (converter : Converter) (value : SlotValue) (text : String) : Prop :=
  cellText shape field value = .ok text ∧ isCellText text = true ∧ (field.isGap value = true → text = "") ∧
    converter.convert (cellOf text.toList) = if field.isGap value then .error .missing else .ok value.readBack

/-- An empty cell is null, unless the field must have a value. -/
theorem writtenAs_empty {shape : String} {field : Field} {converter : Converter} {value : SlotValue}
    (hn : converter.nullable = field.nullable) (ht : cellText shape field value = .ok "")
    (hv : value.readBack = .null) : field.WrittenAs shape converter value "" := by
  refine ⟨ht, rfl, fun _ => rfl, ?_⟩
  have hcell : cellOf "".toList = none := rfl
  rw [hcell, Converter.convert, hn, Field.isGap, hv]
  cases field.nullable <;> rfl

/-- A cell that is not empty is read as its text says. -/
theorem writtenAs_text {shape : String} {field : Field} {converter : Converter} {value : SlotValue} {text : String}
    (ht : cellText shape field value = .ok text) (hc : isCellText text = true) (hne : text ≠ "")
    (hv : value.readBack = value) (hnull : value.isNull = false) (hr : converter.reader.read text = .ok value) :
    field.WrittenAs shape converter value text := by
  have hgap : field.isGap value = false := by rw [Field.isGap, hv, hnull, Bool.and_false]
  refine ⟨ht, hc, fun h => ?_, ?_⟩
  · rw [hgap] at h
    nomatch h
  · rw [cellOf_toList hne, Converter.convert, hr, hgap, hv]
    rfl

/-- The text of a number can always be the text of a cell. -/
theorem writtenAs_number {shape : String} {field : Field} {converter : Converter} {value : SlotValue} {text : String}
    (ht : cellText shape field value = .ok text) (hn : IsNumberText text.toList) (hv : value.readBack = value)
    (hnull : value.isNull = false) (hr : converter.reader.read text = .ok value) :
    field.WrittenAs shape converter value text :=
  writtenAs_text ht (isCellText_of_isNumberText hn) (ne_empty_of_isNumberText hn) hv hnull hr

/-- The place of a name among names of which no two are the same. -/
theorem readMember_getElem {members : List String} (hnd : members.Nodup) {index : Nat} (h : index < members.length) :
    readMember members members[index] = .ok (.enum index) := by
  have hfind : members.findIdx? (· == members[index]) = some index := by
    rw [List.findIdx?_eq_some_iff_getElem]
    refine ⟨h, beq_self_eq_true _, fun j hj => ?_⟩
    rw [beq_iff_eq]
    exact fun e => absurd ((List.Nodup.getElem_inj_iff hnd).1 e) (by omega)
  rw [readMember, hfind]

/-- A value that fits a field is written as a text that can stand in a cell, and the converter of the field reads it back. -/
theorem exists_writtenAs {shape : String} {field : Field} {converter : Converter} {value : SlotValue}
    (hc : Converter.ofField shape field = .ok converter) (hnamed : field.Named) (h : field.Fits value) :
    ∃ text, field.WrittenAs shape converter value text := by
  obtain ⟨name, type, nullable⟩ := field
  rw [Converter.ofField] at hc
  cases hr : CellReader.ofType? type with
  | none => rw [hr] at hc; nomatch hc
  | some reader =>
    rw [hr] at hc
    obtain rfl := Except.ok.inj hc
    rcases h with rfl | ⟨hholds, hprints, hwritable⟩
    · exact ⟨_, writtenAs_empty rfl rfl rfl⟩
    · cases type with
      | bool =>
        cases value with
        | bool b =>
          obtain rfl := Option.some.inj hr
          cases b
          · exact ⟨_, writtenAs_text rfl (by decide) (by decide) rfl rfl rfl⟩
          · exact ⟨_, writtenAs_text rfl (by decide) (by decide) rfl rfl rfl⟩
        | _ => nomatch hholds
      | int width =>
        obtain rfl := Option.some.inj hr
        obtain ⟨i, hi, rfl⟩ := hholds
        refine ⟨_, writtenAs_number (cellText_ofInt shape _ hi) (isNumberText_toString i) (readBack_ofInt width i)
          (isNull_ofInt width i) ?_⟩
        rw [CellReader.read, readInt, readInteger_toString hi]
      | single =>
        cases value with
        | float x =>
          obtain rfl := Option.some.inj hr
          have hx : readNumber .single (cellStyle.text (x.convert .single)) = .ok (x.convert .single) := hprints
          have hback : (x.convert .single).convert .double = x := hholds
          refine ⟨_, writtenAs_number rfl (isNumberText_text cellStyle (x.convert .single)) rfl rfl ?_⟩
          rw [CellReader.read, hx]
          exact congrArg (Except.ok ∘ SlotValue.float) hback
        | _ => nomatch hholds
      | double | decimal =>
        cases value with
        | float x =>
          obtain rfl := Option.some.inj hr
          have hx : readNumber .double (cellStyle.text x) = .ok x := hprints
          refine ⟨_, writtenAs_number rfl (isNumberText_text cellStyle x) rfl rfl ?_⟩
          rw [CellReader.read, hx]
          rfl
        | _ => nomatch hholds
      | text =>
        cases value with
        | text s =>
          obtain rfl := Option.some.inj hr
          have hs : isCellText s = true := hwritable
          have ht : cellText shape ⟨name, .text, nullable⟩ (.text s) = .ok s := by rw [cellText, if_pos hs]
          by_cases hne : s = ""
          · subst hne
            exact ⟨_, writtenAs_empty rfl ht (by rw [SlotValue.readBack, if_pos rfl])⟩
          · exact ⟨_, writtenAs_text ht hs hne (by rw [SlotValue.readBack, if_neg hne]) rfl rfl⟩
        | _ => nomatch hholds
      | enum members =>
        cases value with
        | enum index =>
          obtain rfl := Option.some.inj hr
          have hlt : index < members.length := hholds
          obtain ⟨hnames, hnd⟩ := hnamed
          obtain ⟨hne, hcell⟩ := hnames members[index] (List.mem_cons_of_mem _ (List.getElem_mem hlt))
          refine ⟨members[index], writtenAs_text ?_ hcell hne rfl rfl (readMember_getElem hnd hlt)⟩
          simp only [cellText, List.getElem?_eq_getElem hlt]
        | _ => nomatch hholds
      | list element => nomatch hr

end SheetQuery.Sheet
