import SheetQuery.Proofs.Sheet.Decoding
import SheetQuery.Proofs.Sheet.RoundTrip

/-!
# Sheets written again

The records of a sheet that is read can be written again, unless one of their texts has a carriage return: such a text can come
out of a line, but it cannot stand in a cell. Nothing is lost in between, since a record that is read has no gap and no empty
text. What is written is the same for all sheets of the same records, however they were decorated.
-/

namespace SheetQuery.Sheet

open Decimal Text

variable {α : Type}

/-- Whether a value is a text with a carriage return. -/
def SlotValue.hasReturn : SlotValue → Bool
  | .text s => s.toList.contains '\r'
  | _ => false

/-- The values of records beside their fields, in the order in which they are written. -/
def Shape.cells (shape : Shape α) (records : List α) : List (Field × SlotValue) :=
  records.flatMap fun record => shape.declaration.fields.zip (shape.toSlots record)

/-- Whether the floating-point numbers of a record read back from the texts that are written for them. -/
def Shape.PrintsBack (shape : Shape α) (record : α) : Prop :=
  List.Forall₂ (fun field value => field.type.PrintsBack value) shape.declaration.fields (shape.toSlots record)

/-! ## Values -/

/-- No type holds null. -/
theorem isNull_of_holds {type : FieldType} {value : SlotValue} (h : type.Holds value) : value.isNull = false := by
  cases value with
  | null =>
    cases type with
    | int width =>
      obtain ⟨i, -, hi⟩ := h
      rw [hi]
      exact isNull_ofInt width i
    | _ => nomatch h
  | _ => rfl

namespace Field

variable {field : Field} {value : SlotValue}

/-- A value that is read is read back as it is. -/
theorem readBack_of_yields (h : field.Yields value) : value.readBack = value := by
  refine readBack_eq_self ?_
  rintro rfl
  exact h.2.1 rfl

/-- A value that is read is no gap. -/
theorem isGap_of_yields (h : field.Yields value) : field.isGap value = false := by
  rw [isGap, readBack_of_yields h]
  rcases h.1 with ⟨-, hnullable⟩ | hholds
  · rw [hnullable]
    rfl
  · rw [isNull_of_holds hholds, Bool.and_false]

/-- A value that is read can be written again unless it is a text with a carriage return. -/
theorem fits_of_yields (h : field.Yields value) (hp : field.type.PrintsBack value) (hr : value.hasReturn = false) :
    field.Fits value := by
  rcases h.1 with ⟨hnull, -⟩ | hholds
  · exact .inl hnull
  · refine .inr ⟨hholds, hp, ?_⟩
    cases value with
    | text s =>
      have hcell : isCellText s = !s.toList.contains '\r' := isCellText_of_isCut h.2
      rw [SlotValue.hasReturn] at hr
      rw [SlotValue.Writable, hcell, hr]
      rfl
    | _ => trivial

end Field

/-- A text with a carriage return that is read cannot be written again. -/
theorem cellText_of_hasReturn (shape : String) (field : Field) {value : SlotValue} (h : value.Cut)
    (hr : value.hasReturn = true) :
    ∃ text, value = .text text ∧ cellText shape field value = .error (.ofFault (.unencodable shape field.name text)) := by
  cases value with
  | text s =>
    have hcell : isCellText s = !s.toList.contains '\r' := isCellText_of_isCut h
    rw [SlotValue.hasReturn] at hr
    rw [hr] at hcell
    refine ⟨s, rfl, ?_⟩
    rw [cellText, hcell]
    rfl
  | _ => cases hr

/-! ## Records -/

/-- The first text of a line that has a carriage return ends the line. -/
theorem cellTexts_of_find? {shape : String} {fields : List Field} {converters : List Converter} {values : List SlotValue}
    (hc : List.Forall₂ (fun field converter => Converter.ofField shape field = .ok converter) fields converters)
    (hn : ∀ field ∈ fields, field.Named) (hy : List.Forall₂ Field.Yields fields values)
    (hp : List.Forall₂ (fun field value => field.type.PrintsBack value) fields values) {cell : Field × SlotValue}
    (h : (fields.zip values).find? (·.2.hasReturn) = some cell) :
    ∃ text, cell.2 = .text text ∧
      cellTexts shape fields values = .error (.ofFault (.unencodable shape cell.1.name text)) := by
  induction hy generalizing converters with
  | nil => nomatch h
  | @cons field value fields values hvalue _ ih =>
    cases hc with
    | @cons _ converter _ converters hconverter hc =>
      cases hp with
      | cons hprints hp =>
        rw [List.zip_cons_cons, List.find?_cons] at h
        rw [cellTexts]
        cases hr : value.hasReturn with
        | true =>
          simp only [hr] at h
          obtain rfl := Option.some.inj h
          obtain ⟨text, htext, herror⟩ := cellText_of_hasReturn shape field hvalue.2 hr
          refine ⟨text, htext, ?_⟩
          rw [herror]
          rfl
        | false =>
          simp only [hr] at h
          obtain ⟨text, hwritten, -⟩ :=
            exists_writtenAs hconverter (hn field List.mem_cons_self) (Field.fits_of_yields hvalue hprints hr)
          obtain ⟨found, hfound, herror⟩ := ih hc (fun f hf => hn f (List.mem_cons_of_mem _ hf)) hp h
          refine ⟨found, hfound, ?_⟩
          rw [hwritten, herror]
          rfl

/-- A line of values that are read has no gap. -/
theorem firstGap_of_yields {fields : List Field} {values : List SlotValue} (h : List.Forall₂ Field.Yields fields values) :
    firstGap fields values = none := by
  induction h with
  | nil => rfl
  | cons hvalue _ ih =>
    have hgap := Field.isGap_of_yields hvalue
    rw [firstGap, hgap, if_neg Bool.false_ne_true, ih]

/-- A line of values that are read is read back as it is. -/
theorem map_readBack_of_yields {fields : List Field} {values : List SlotValue}
    (h : List.Forall₂ Field.Yields fields values) : values.map SlotValue.readBack = values := by
  induction h with
  | nil => rfl
  | cons hvalue _ ih => rw [List.map_cons, Field.readBack_of_yields hvalue, ih]

/-- A value of a line stands beside a field. -/
theorem exists_field_of_yields {fields : List Field} {values : List SlotValue}
    (h : List.Forall₂ Field.Yields fields values) {value : SlotValue} (hv : value ∈ values) :
    ∃ field, (field, value) ∈ fields.zip values := by
  rw [← List.map_snd_zip (Nat.le_of_eq h.length_eq.symm)] at hv
  obtain ⟨⟨field, _⟩, hcell, rfl⟩ := List.mem_map.1 hv
  exact ⟨field, hcell⟩

/-- A line of values that are read can be written again if none of its texts has a carriage return. -/
theorem fits_of_yields_all {fields : List Field} {values : List SlotValue} (hy : List.Forall₂ Field.Yields fields values)
    (hp : List.Forall₂ (fun field value => field.type.PrintsBack value) fields values)
    (hr : ∀ value ∈ values, value.hasReturn = false) : List.Forall₂ Field.Fits fields values := by
  induction hy with
  | nil => exact .nil
  | @cons field value fields values hvalue _ ih =>
    cases hp with
    | cons hprints hp =>
      refine .cons (Field.fits_of_yields hvalue hprints (hr value List.mem_cons_self)) (ih hp fun v hv => ?_)
      exact hr v (List.mem_cons_of_mem _ hv)

/-! ## The lines of a sheet -/

/-- The first text of a sheet that has a carriage return ends the sheet. -/
theorem recordTexts_of_find? {shape : Shape α} {schema : ShapeSchema} {readers : List SlotReader}
    (he : shape.Encodable schema readers) {records : List α} (hy : ∀ record ∈ records, shape.Yields record)
    (hp : ∀ record ∈ records, shape.PrintsBack record) {cell : Field × SlotValue}
    (h : (shape.cells records).find? (·.2.hasReturn) = some cell) :
    ∃ text, cell.2 = .text text ∧
      recordTexts shape records = .error (.ofFault (.unencodable shape.declaration.shape cell.1.name text)) := by
  induction records with
  | nil => nomatch h
  | cons record records ih =>
    have hrecord := hy record List.mem_cons_self
    have hprints := hp record List.mem_cons_self
    have hlen : (shape.toSlots record).length = shape.declaration.fields.length := hrecord.1.length_eq.symm
    obtain ⟨-, -, hconverters, -, -⟩ := ShapeSchema.prepare_ok he.prepared
    rw [Shape.cells, List.flatMap_cons, List.find?_append, ← Shape.cells] at h
    rw [recordTexts]
    cases hfind : (shape.declaration.fields.zip (shape.toSlots record)).find? (·.2.hasReturn) with
    | some first =>
      rw [hfind] at h
      obtain rfl := Option.some.inj h
      obtain ⟨text, htext, herror⟩ := cellTexts_of_find? hconverters he.named hrecord.1 hprints hfind
      refine ⟨text, htext, ?_⟩
      rw [recordText, if_pos hlen, herror]
      rfl
    | none =>
      rw [hfind, Option.none_or] at h
      have hreturns : ∀ value ∈ shape.toSlots record, value.hasReturn = false := by
        intro value hvalue
        obtain ⟨field, hcell⟩ := exists_field_of_yields hrecord.1 hvalue
        exact Bool.eq_false_iff.2 (List.find?_eq_none.1 hfind _ hcell)
      obtain ⟨texts, -, -, htexts, -⟩ := exists_recordText he (fits_of_yields_all hrecord.1 hprints hreturns)
      obtain ⟨text, htext, herror⟩ := ih (fun r hr => hy r (List.mem_cons_of_mem _ hr))
        (fun r hr => hp r (List.mem_cons_of_mem _ hr)) h
      refine ⟨text, htext, ?_⟩
      rw [htexts, herror]
      rfl

/-! ## A sheet -/

/-- Records that are read are told apart by their slots. -/
theorem eq_of_map_toSlots {shape : Shape α} {back records : List α} (hb : ∀ record ∈ back, shape.Yields record)
    (hr : ∀ record ∈ records, shape.Yields record) (h : back.map shape.toSlots = records.map shape.toSlots) :
    back = records := by
  have hbuilt : ∀ {list : List α}, (∀ record ∈ list, shape.Yields record) →
      (list.map shape.toSlots).map shape.build = list.map Except.ok := by
    intro list hlist
    rw [List.map_map]
    exact List.map_congr_left fun record hrecord => (hlist record hrecord).2
  have hok : back.map Except.ok = records.map (Except.ok (ε := SheetError)) := by
    rw [← hbuilt hb, ← hbuilt hr, h]
  exact List.map_injective_iff.2 (fun _ _ => Except.ok.inj) hok

/-- Sheets that are read can be written again. The records that are read from any bytes can be written exactly if none of their
texts has a carriage return; otherwise the sheet is refused for the first text that has one. What is written is read as the same
records, and these are written as the same bytes again. -/
theorem encode_of_decodeAll {shape : Shape α} {schema : ShapeSchema} {readers : List SlotReader}
    (he : shape.Encodable schema readers) {reading writing rereading rewriting : Registry} (hreading : reading.Valid)
    (hwriting : writing.Valid) (hrereading : rereading.Valid) (hrewriting : rewriting.Valid) {bytes : List UInt8}
    {records : List α} (hd : (decodeAll shape bytes reading).1 = .ok records)
    (hp : ∀ record ∈ records, shape.PrintsBack record) :
    ((∃ again, (encode shape records writing).1 = .ok again) ↔
        ∀ record ∈ records, ∀ value ∈ shape.toSlots record, value.hasReturn = false) ∧
      (∀ cell, (shape.cells records).find? (·.2.hasReturn) = some cell →
        ∃ text, cell.2 = .text text ∧ (encode shape records writing).1 =
          .error (.ofFault (.unencodable shape.declaration.shape cell.1.name text))) ∧
      ∀ again, (encode shape records writing).1 = .ok again →
        (decodeAll shape again rereading).1 = .ok records ∧ (encode shape records rewriting).1 = .ok again := by
  have hy := yields_of_decodeAll he.readBy hreading hd
  have hrefused : ∀ cell, (shape.cells records).find? (·.2.hasReturn) = some cell →
      ∃ text, cell.2 = .text text ∧ (encode shape records writing).1 =
        .error (.ofFault (.unencodable shape.declaration.shape cell.1.name text)) := by
    intro cell hcell
    obtain ⟨text, htext, herror⟩ := recordTexts_of_find? he hy hp hcell
    refine ⟨text, htext, ?_⟩
    rw [encode_eq he.prepared records hwriting, herror]
    rfl
  have hreturns : ∀ again, (encode shape records writing).1 = .ok again →
      ∀ record ∈ records, ∀ value ∈ shape.toSlots record, value.hasReturn = false := by
    intro again hagain record hrecord value hvalue
    obtain ⟨field, hcell⟩ := exists_field_of_yields (hy record hrecord).1 hvalue
    cases hfind : (shape.cells records).find? (·.2.hasReturn) with
    | none =>
      exact Bool.eq_false_iff.2 (List.find?_eq_none.1 hfind _ (List.mem_flatMap.2 ⟨record, hrecord, hcell⟩))
    | some first =>
      obtain ⟨text, -, herror⟩ := hrefused first hfind
      rw [hagain] at herror
      nomatch herror
  have hfits : (∀ record ∈ records, ∀ value ∈ shape.toSlots record, value.hasReturn = false) →
      ∀ record ∈ records, shape.FitsAll record := by
    intro hr record hrecord
    exact fits_of_yields_all (hy record hrecord).1 (hp record hrecord) (hr record hrecord)
  refine ⟨⟨fun ⟨again, hagain⟩ => hreturns again hagain, fun hr => ?_⟩, hrefused, fun again hagain => ⟨?_, ?_⟩⟩
  · obtain ⟨again, hagain, -⟩ := exists_encode he (hfits hr) hwriting hrereading
    exact ⟨again, hagain⟩
  · obtain ⟨written, hwritten, hback⟩ := exists_encode he (hfits (hreturns again hagain)) hwriting hrereading
    obtain rfl : written = again := Except.ok.inj (hwritten.symm.trans hagain)
    rw [readBackAll_eq_ok fun record hrecord => firstGap_of_yields (hy record hrecord).1] at hback
    obtain ⟨back, hdecoded, hslots⟩ := exists_of_map_ok hback
    have hsame : records.map (fun record => (shape.toSlots record).map SlotValue.readBack) =
        records.map shape.toSlots :=
      List.map_congr_left fun record hrecord => map_readBack_of_yields (hy record hrecord).1
    have hyback := yields_of_decodeAll he.readBy hrereading hdecoded
    rw [hdecoded, eq_of_map_toSlots hyback hy (hslots.trans hsame)]
  · rw [encode_eq he.prepared records hrewriting, ← encode_eq he.prepared records hwriting]
    exact hagain

/-- An integer that may be absent is no floating-point number. -/
theorem printsBack_slotOfOption {width : IntWidth} {slot : α → SlotValue}
    (h : ∀ x, (FieldType.int width).PrintsBack (slot x)) (x : Option α) :
    (FieldType.int width).PrintsBack (slotOfOption slot x) := by
  cases x with
  | none => trivial
  | some x => exact h x

/-- A faction has no floating-point numbers. -/
theorem Faction.printsBack (f : Faction) : Faction.shape.PrintsBack f := by
  have hsigned : ∀ n, (FieldType.int .i32).PrintsBack (slotOfInt32 n) := fun _ => trivial
  have hunsigned : ∀ n, (FieldType.int .u32).PrintsBack (slotOfUInt32 n) := fun _ => trivial
  exact .cons trivial (.cons trivial (.cons (printsBack_slotOfOption hsigned f.shortNameId)
    (.cons (printsBack_slotOfOption hunsigned f.iconId) (.cons trivial (.cons trivial (.cons trivial .nil))))))

/-- A decorated sheet with its columns in another order, one of them without a label, with signs, zeros and ends of lines that
are not written: it is written as a plain sheet. The same with a carriage return in a tag is refused for the tag. -/
theorem encode_of_decodeAll_decorated :
    (decodeAll Faction.shape (encodeUtf8
        "#*User_Selectable*^^CODE__TAG^hudtintrgb^iD^nameid\n true ^skip^V S^+007^01^-5^more\r\n\r\n0^^TR^1^2^-05") .empty).1 =
      .ok [⟨1, -5, none, none, 7, "V S", true⟩, ⟨2, -5, none, none, 1, "TR", false⟩] ∧
    (∃ again, (encode Faction.shape
        [⟨1, -5, none, none, 7, "V S", true⟩, ⟨2, -5, none, none, 1, "TR", false⟩] .empty).1 = .ok again ∧
      (decodeAll Faction.shape again .empty).1 =
        .ok [⟨1, -5, none, none, 7, "V S", true⟩, ⟨2, -5, none, none, 1, "TR", false⟩]) ∧
    (decodeAll Faction.shape (encodeUtf8
        "#id^name_id^hud_tint_rgb^code_tag^user_selectable\n1^2^3^VS^1\n4^5^6^T\rR^0\r\n") .empty).1 =
      .ok [⟨1, 2, none, none, 3, "VS", true⟩, ⟨4, 5, none, none, 6, "T\rR", false⟩] ∧
    (encode Faction.shape [⟨1, 2, none, none, 3, "VS", true⟩, ⟨4, 5, none, none, 6, "T\rR", false⟩] .empty).1 =
      .error (.ofFault (.unencodable "Faction" "code_tag" "T\rR")) := by
  obtain ⟨schema, he⟩ := Faction.encodable
  have hplain : (decodeAll Faction.shape (encodeUtf8
      "#*User_Selectable*^^CODE__TAG^hudtintrgb^iD^nameid\n true ^skip^V S^+007^01^-5^more\r\n\r\n0^^TR^1^2^-05") .empty).1 =
    .ok [⟨1, -5, none, none, 7, "V S", true⟩, ⟨2, -5, none, none, 1, "TR", false⟩] := by decide +kernel
  have hreturn : (decodeAll Faction.shape (encodeUtf8
      "#id^name_id^hud_tint_rgb^code_tag^user_selectable\n1^2^3^VS^1\n4^5^6^T\rR^0\r\n") .empty).1 =
    .ok [⟨1, 2, none, none, 3, "VS", true⟩, ⟨4, 5, none, none, 6, "T\rR", false⟩] := by decide +kernel
  obtain ⟨hwritten, -, hagain⟩ := encode_of_decodeAll he Registry.valid_empty Registry.valid_empty Registry.valid_empty
    Registry.valid_empty hplain fun f _ => Faction.printsBack f
  obtain ⟨again, hencoded⟩ := hwritten.2 (by decide)
  obtain ⟨-, hrefused, -⟩ := encode_of_decodeAll he Registry.valid_empty Registry.valid_empty Registry.valid_empty
    Registry.valid_empty hreturn fun f _ => Faction.printsBack f
  obtain ⟨text, htext, herror⟩ := hrefused (required "code_tag" .text, .text "T\rR") (by decide)
  obtain rfl : text = "T\rR" := (SlotValue.text.inj htext).symm
  exact ⟨hplain, ⟨again, hencoded, (hagain again hencoded).1⟩, hreturn, herror⟩

end SheetQuery.Sheet
