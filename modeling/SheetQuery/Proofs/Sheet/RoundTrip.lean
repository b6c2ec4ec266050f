import SheetQuery.Proofs.Sheet.Client
import SheetQuery.Proofs.Sheet.Line
import SheetQuery.Proofs.Sheet.Schema

/-!
# Sheets read back

Every step of reading undoes the step of writing that belongs to it: lines and cells come apart where they were put
together, the header names every field at its own place, and each cell gives the value that it was written for. The column
of a field fills the slot of that field, so the values of a line stand in order once all columns are filled. The first gap of
a line ends the sheet, at the number of the line that has it.
-/

namespace SheetQuery.Sheet

open Text

variable {α : Type}

/-- The error of a gap on a line. -/
def gapError (shape : String) (field : Field) (line : Nat) : SheetError :=
  ⟨.conversion shape field.name none .missing, some line⟩

/-! ## The cells of a record -/

/-- Values that fit their fields are written as texts that can stand in cells, each of which reads back. -/
theorem exists_cellTexts {shape : String} {fields : List Field} {converters : List Converter} {values : List SlotValue}
    (hc : List.Forall₂ (fun field converter => Converter.ofField shape field = .ok converter) fields converters)
    (hn : ∀ field ∈ fields, field.Named) (hf : List.Forall₂ Field.Fits fields values) :
    ∃ texts, cellTexts shape fields values = .ok texts ∧ texts.length = fields.length ∧
      (∀ text ∈ texts, isCellText text = true) ∧
      ∀ (i : Nat) (field : Field) (value : SlotValue), fields[i]? = some field → values[i]? = some value →
        ∃ converter text, converters[i]? = some converter ∧ texts[i]? = some text ∧
          field.WrittenAs shape converter value text := by
  induction hf generalizing converters with
  | nil => exact ⟨[], rfl, rfl, by simp, by simp⟩
  | @cons field value fields values hfit _ ih =>
    cases hc with
    | @cons _ converter _ converters hconv hc =>
      obtain ⟨text, hw⟩ := exists_writtenAs hconv (hn field List.mem_cons_self) hfit
      obtain ⟨texts, htexts, hlen, hcells, hback⟩ := ih hc fun f hm => hn f (List.mem_cons_of_mem _ hm)
      refine ⟨text :: texts, ?_, by rw [List.length_cons, hlen, List.length_cons], ?_, ?_⟩
      · rw [cellTexts, hw.1, htexts]
        rfl
      · intro t ht
        rcases List.mem_cons.1 ht with rfl | ht
        · exact hw.2.1
        · exact hcells t ht
      · intro i f v hfi hvi
        cases i with
        | zero =>
          obtain rfl := Option.some.inj hfi
          obtain rfl := Option.some.inj hvi
          exact ⟨converter, text, rfl, rfl, hw⟩
        | succ i => exact hback i f v hfi hvi

/-- The column of a written cell gives the value that is read back, or is a gap. -/
theorem convertColumn_writtenAs {schema : Schema} {cells : RawLine} {i : Nat} {field : Field} {converter : Converter}
    {value : SlotValue} {text : String} (hconverter : schema.shape.converters[i]? = some converter)
    (hfield : schema.shape.declaration.fields[i]? = some field) (hcell : cells[i]? = some (cellOf text.toList))
    (hw : field.WrittenAs schema.shape.declaration.shape converter value text) :
    convertColumn schema cells (schema.shape.column i i) =
      if field.isGap value then
        .error (.ofFault (.conversion schema.shape.declaration.shape field.name none .missing))
      else .ok value.readBack := by
  obtain ⟨-, -, hempty, hconvert⟩ := hw
  simp only [convertColumn, ShapeSchema.column_column, ShapeSchema.slot_column, hconverter, hfield, hcell, Option.join_some,
    hconvert]
  by_cases hgap : field.isGap value = true
  · have hnone : cellOf text.toList = none := by
      rw [hempty hgap]
      rfl
    simp only [hgap, if_true, hnone]
  · simp only [hgap, if_false, Bool.false_eq_true]

/-! ## The slots of a line -/

/-- The columns in order, from a place on, fill the slots from that place on, unless there is a gap among them. -/
theorem fillSlots_inOrder {schema : Schema} {cells : RawLine} {fields : List Field} {values : List SlotValue}
    (before : List SlotValue) (hlen : values.length = fields.length)
    (h : ∀ (i : Nat) (field : Field) (value : SlotValue), fields[i]? = some field → values[i]? = some value →
      convertColumn schema cells (schema.shape.column (before.length + i) (before.length + i)) =
        if field.isGap value then
          .error (.ofFault (.conversion schema.shape.declaration.shape field.name none .missing))
        else .ok value.readBack) :
    fillSlots schema cells (schema.shape.inOrder before.length fields.length)
        (before ++ List.replicate fields.length .null) =
      match firstGap fields values with
      | some field => .error (.ofFault (.conversion schema.shape.declaration.shape field.name none .missing))
      | none => .ok (before ++ values.map SlotValue.readBack) := by
  induction fields generalizing values before with
  | nil =>
    obtain rfl := List.length_eq_zero_iff.1 hlen
    rfl
  | cons field fields ih =>
    cases values with
    | nil => nomatch hlen
    | cons value values =>
      have hfirst := h 0 field value rfl rfl
      rw [Nat.add_zero] at hfirst
      have hcolumns : schema.shape.inOrder before.length (field :: fields).length =
          schema.shape.column before.length before.length :: schema.shape.inOrder (before.length + 1) fields.length := rfl
      rw [hcolumns, fillSlots, hfirst, firstGap]
      by_cases hgap : field.isGap value = true
      · simp only [hgap, if_true]
        rfl
      · have hset : (before ++ List.replicate (field :: fields).length SlotValue.null).set before.length value.readBack =
            (before ++ [value.readBack]) ++ List.replicate fields.length .null := by
          rw [List.length_cons, List.replicate_succ, List.set_append_right _ _ (Nat.le_refl _), Nat.sub_self]
          simp
        have hrest := ih (before ++ [value.readBack]) (Nat.succ.inj hlen) (by
          intro i f v hfi hvi
          have hnext := h (i + 1) f v hfi hvi
          have hplace : before.length + (i + 1) = (before ++ [value.readBack]).length + i := by
            rw [List.length_append, List.length_singleton]
            omega
          rwa [hplace] at hnext)
        rw [List.length_append, List.length_singleton] at hrest
        simp only [hgap, if_false, Bool.false_eq_true, bind, Except.bind, ShapeSchema.slot_column, hset, hrest]
        simp only [List.append_assoc, List.singleton_append, List.map_cons]

/-- The line of a record that fits is read as the record that has the values that are read back, or as its first gap. -/
theorem exists_recordText {shape : Shape α} {schema : ShapeSchema} {readers : List SlotReader}
    (he : shape.Encodable schema readers) {record : α} (hf : shape.FitsAll record) :
    ∃ texts, texts ≠ [] ∧ (∀ text ∈ texts, isCellText text = true) ∧
      recordText shape.declaration (shape.toSlots record) = .ok (lineText texts) ∧
      ∀ columnCount line, shape.toSlots <$> materialize shape
          ⟨schema, schema.inOrder 0 shape.declaration.fields.length, columnCount⟩
          (texts.map fun text => cellOf text.toList) line =
        match shape.gap record with
        | some field => .error (gapError shape.declaration.shape field line)
        | none => .ok ((shape.toSlots record).map SlotValue.readBack) := by
  obtain ⟨hne, hdecl, hconverters, -, -⟩ := ShapeSchema.prepare_ok he.prepared
  obtain ⟨texts, htexts, hlen, hcells, hback⟩ := exists_cellTexts hconverters he.named hf
  have hcount : (shape.toSlots record).length = shape.declaration.fields.length := hf.length_eq.symm
  refine ⟨texts, ?_, hcells, ?_, fun columnCount line => ?_⟩
  · rintro rfl
    exact hne (List.length_eq_zero_iff.1 hlen.symm)
  · rw [recordText, if_pos hcount, htexts]
    rfl
  · have hslots : slotValues ⟨schema, schema.inOrder 0 shape.declaration.fields.length, columnCount⟩
          (texts.map fun text => cellOf text.toList) =
        match shape.gap record with
        | some field => .error (.ofFault (.conversion shape.declaration.shape field.name none .missing))
        | none => .ok ((shape.toSlots record).map SlotValue.readBack) := by
      obtain ⟨declaration, converters, names⟩ := schema
      obtain rfl : declaration = shape.declaration := hdecl
      rw [slotValues, ShapeSchema.slotCount]
      refine fillSlots_inOrder [] hcount fun i field value hfi hvi => ?_
      obtain ⟨converter, text, hci, hti, hw⟩ := hback i field value hfi hvi
      rw [List.length_nil, Nat.zero_add]
      exact convertColumn_writtenAs hci hfi (by rw [List.getElem?_map, hti]; rfl) hw
    rw [materialize, hslots]
    cases hgap : shape.gap record with
    | some field => rfl
    | none =>
      obtain ⟨back, hbuild, hvalues⟩ := he.readBy.build_readBack hf hgap
      simp only [Except.bind, hbuild]
      exact congrArg Except.ok hvalues

/-! ## The lines of a sheet -/

/-- What is read back of records that begin after a line: the values of each, up to the first gap. -/
def readBackAll (shape : Shape α) : Nat → List α → Except SheetError (List (List SlotValue))
  | _, [] => .ok []
  | line, record :: records =>
    match shape.gap record with
    | some field => .error (gapError shape.declaration.shape field (line + 1))
    | none => ((shape.toSlots record).map SlotValue.readBack :: ·) <$> readBackAll shape (line + 1) records

/-- Records without gaps are all read back. -/
theorem readBackAll_eq_ok {shape : Shape α} {records : List α} (h : ∀ record ∈ records, shape.gap record = none)
    (line : Nat) :
    readBackAll shape line records = .ok (records.map fun record => (shape.toSlots record).map SlotValue.readBack) := by
  induction records generalizing line with
  | nil => rfl
  | cons record records ih =>
    have hrest := ih (fun r hr => h r (List.mem_cons_of_mem _ hr)) (line + 1)
    simp only [readBackAll, h record List.mem_cons_self, hrest]
    rfl

/-- The first gap is the error of the line of its record. -/
theorem readBackAll_eq_error {shape : Shape α} {before : List α} (h : ∀ record ∈ before, shape.gap record = none)
    {record : α} {field : Field} (hgap : shape.gap record = some field) (after : List α) (line : Nat) :
    readBackAll shape line (before ++ record :: after) =
      .error (gapError shape.declaration.shape field (line + before.length + 1)) := by
  induction before generalizing line with
  | nil => simp only [List.nil_append, readBackAll, hgap, List.length_nil, Nat.add_zero]
  | cons first before ih =>
    have hrest := ih (fun r hr => h r (List.mem_cons_of_mem _ hr)) (line + 1)
    simp only [List.cons_append, readBackAll, h first List.mem_cons_self, hrest, List.length_cons]
    rw [Nat.add_right_comm line 1, ← Nat.add_assoc]
    rfl

/-- The lines of records that fit can be written, and they read back. -/
theorem exists_recordTexts {shape : Shape α} {schema : ShapeSchema} {readers : List SlotReader}
    (he : shape.Encodable schema readers) {records : List α} (hf : ∀ record ∈ records, shape.FitsAll record) :
    ∃ body, recordTexts shape records = .ok body ∧
      ∀ columnCount line, List.map shape.toSlots <$> Records.collectLines shape
          ⟨schema, schema.inOrder 0 shape.declaration.fields.length, columnCount⟩
          (Lines.numbered line (segments (encodeChars body))) =
        readBackAll shape line records := by
  induction records with
  | nil => exact ⟨[], rfl, fun _ _ => rfl⟩
  | cons record records ih =>
    obtain ⟨texts, hne, hcells, hline, hback⟩ := exists_recordText he (hf record List.mem_cons_self)
    obtain ⟨body, hbody, hrest⟩ := ih fun r hr => hf r (List.mem_cons_of_mem _ hr)
    refine ⟨lineText texts ++ body, ?_, fun columnCount line => ?_⟩
    · rw [recordTexts, hline, hbody]
      rfl
    · have hfirst := hback columnCount (line + 1)
      have hnext := hrest columnCount (line + 1)
      rw [encodeChars_append, Lines.numbered_lineText hne hcells, Records.collectLines, readBackAll, ← hnext]
      simp only [bind, Except.bind]
      cases hm : materialize shape ⟨schema, schema.inOrder 0 shape.declaration.fields.length, columnCount⟩
          (texts.map fun text => cellOf text.toList) (line + 1) with
      | error e =>
        rw [hm] at hfirst
        cases hgap : shape.gap record with
        | some field =>
          rw [hgap] at hfirst
          exact congrArg Except.error (Except.error.inj hfirst)
        | none => rw [hgap] at hfirst; nomatch hfirst
      | ok back =>
        rw [hm] at hfirst
        cases hgap : shape.gap record with
        | some field => rw [hgap] at hfirst; nomatch hfirst
        | none =>
          rw [hgap] at hfirst
          have hvalues : shape.toSlots back = (shape.toSlots record).map SlotValue.readBack := Except.ok.inj hfirst
          rw [← hvalues]
          cases Records.collectLines shape ⟨schema, schema.inOrder 0 shape.declaration.fields.length, columnCount⟩
              (Lines.numbered (line + 1) (segments (encodeChars body))) <;> rfl

/-! ## A sheet -/

/-- The labels of a header, as they are read. -/
theorem cells_labels {fields : List Field} (hn : ∀ field ∈ fields, field.Named) :
    (ShapeSchema.labels fields).map (fun label => cellOf label.toList) = (ShapeSchema.labels fields).map some := by
  refine List.map_congr_left fun label hl => ?_
  rw [ShapeSchema.labels, List.mem_map] at hl
  obtain ⟨field, hfield, rfl⟩ := hl
  have hne : field.name ≠ "" := ((hn field hfield).1 field.name List.mem_cons_self).1
  refine cellOf_toList fun h => upperAscii_ne_empty hne ?_
  rw [h]
  rfl

/-- The labels of a header can stand in cells. -/
theorem isCellText_labels {fields : List Field} (hn : ∀ field ∈ fields, field.Named) :
    ∀ label ∈ ShapeSchema.labels fields, isCellText label = true := by
  intro label hl
  rw [ShapeSchema.labels, List.mem_map] at hl
  obtain ⟨field, hfield, rfl⟩ := hl
  exact isCellText_upperAscii ((hn field hfield).1 field.name List.mem_cons_self).2

/-- The characters of a header before its records: the marker and the line of the labels. -/
def headerText (fields : List Field) : List Char :=
  '#' :: lineText (ShapeSchema.labels fields)

/-- A sheet of a shape that can be prepared is its header and the lines of its records, whatever else a registry has. -/
theorem encode_eq {shape : Shape α} {schema : ShapeSchema} (hp : ShapeSchema.prepare shape.declaration = .ok schema)
    (records : List α) {registry : Registry} (hv : registry.Valid) :
    (encode shape records registry).1 =
      (recordTexts shape records).map fun body => encodeChars (headerText shape.declaration.fields ++ body) := by
  have hshape := (Registry.shape_eq hv shape.toShapeType).1
  rw [hp] at hshape
  rw [encode, sheetText]
  cases hreg : registry.shape shape.toShapeType with
  | mk prepared registry' =>
    rw [hreg] at hshape
    obtain rfl : prepared = .ok schema := hshape
    cases recordTexts shape records with
    | error e => rfl
    | ok body => exact congrArg Except.ok (encodeUtf8_ofList _)

/-- A sheet of records that fit can be written, and what is read from it is what is read back of the records. -/
theorem exists_encode {shape : Shape α} {schema : ShapeSchema} {readers : List SlotReader}
    (he : shape.Encodable schema readers) {records : List α} (hf : ∀ record ∈ records, shape.FitsAll record)
    {writing reading : Registry} (hw : writing.Valid) (hr : reading.Valid) :
    ∃ bytes, (encode shape records writing).1 = .ok bytes ∧
      List.map shape.toSlots <$> (decodeAll shape bytes reading).1 = readBackAll shape 1 records := by
  obtain ⟨body, hbody, hback⟩ := exists_recordTexts he hf
  have hlabels : ShapeSchema.labels shape.declaration.fields ≠ [] := by
    simpa [ShapeSchema.labels] using (ShapeSchema.prepare_ok he.prepared).1
  let header := lineText (ShapeSchema.labels shape.declaration.fields)
  have hmarker : encodeChars (headerText shape.declaration.fields ++ body) =
      headerMarker :: (encodeChars header ++ encodeChars body) := by
    rw [headerText, List.cons_append, ← List.singleton_append, encodeChars_append, encodeChars_append]
    rfl
  refine ⟨encodeChars (headerText shape.declaration.fields ++ body), ?_, ?_⟩
  · rw [encode_eq he.prepared records hw, hbody]
    rfl
  · have hnext : (Lines.ofBytes (encodeChars header ++ encodeChars body)).next =
        (some (.ok ((ShapeSchema.labels shape.declaration.fields).map some)), ⟨segments (encodeChars body), 1⟩) := by
      rw [← cells_labels he.named]
      exact Lines.nextFrom_lineText hlabels (isCellText_labels he.named) 0 (encodeChars body)
    have hresolve := (Registry.resolve_eq hr shape.toShapeType ((ShapeSchema.labels shape.declaration.fields).map some)).1
    rw [he.prepared, Except.bind, ShapeSchema.resolve_labels he.prepared] at hresolve
    rw [← hback shape.declaration.fields.length 1, hmarker, decodeAll, Records.start, Lines.withHeader, if_pos rfl]
    simp only [hnext]
    cases hreg : reading.resolve shape.toShapeType ((ShapeSchema.labels shape.declaration.fields).map some) with
    | mk resolved registry =>
      rw [hreg] at hresolve
      obtain rfl := hresolve
      rfl

/-- Sheets are read back as they were written. A sheet of records that fit the fields of their shape can be written; from its
bytes the same records are read in the same order, with null for every empty text; and if a field that must have a value has
null or an empty text, the sheet is refused for the first such field of the first such record, on the line of the record. -/
theorem decodeAll_encode {shape : Shape α} {schema : ShapeSchema} {readers : List SlotReader}
    (he : shape.Encodable schema readers) {records : List α} (hf : ∀ record ∈ records, shape.FitsAll record)
    {writing reading : Registry} (hw : writing.Valid) (hr : reading.Valid) :
    ∃ bytes, (encode shape records writing).1 = .ok bytes ∧
      ((∀ record ∈ records, shape.gap record = none) →
        ∃ back, (decodeAll shape bytes reading).1 = .ok back ∧
          back.map shape.toSlots = records.map (fun record => (shape.toSlots record).map SlotValue.readBack) ∧
          (Function.Injective shape.toSlots → (∀ record ∈ records, .text "" ∉ shape.toSlots record) → back = records)) ∧
      ∀ before record after field, records = before ++ record :: after →
        (∀ earlier ∈ before, shape.gap earlier = none) → shape.gap record = some field →
        (decodeAll shape bytes reading).1 =
          .error ⟨.conversion shape.declaration.shape field.name none .missing, some (before.length + 2)⟩ := by
  obtain ⟨bytes, hbytes, hback⟩ := exists_encode he hf hw hr
  refine ⟨bytes, hbytes, fun hgaps => ?_, ?_⟩
  · rw [readBackAll_eq_ok hgaps] at hback
    cases hdec : (decodeAll shape bytes reading).1 with
    | error e => rw [hdec] at hback; nomatch hback
    | ok back =>
      rw [hdec] at hback
      have hvalues := Except.ok.inj hback
      refine ⟨back, rfl, hvalues, fun hinj hempty => hinj.list_map (hvalues.trans ?_)⟩
      refine List.map_congr_left fun record hrecord => ?_
      refine (List.map_congr_left fun value hvalue => ?_).trans (List.map_id _)
      exact readBack_eq_self fun e => hempty record hrecord (e ▸ hvalue)
  · rintro before record after field rfl hgaps hgap
    rw [readBackAll_eq_error hgaps hgap, Nat.add_comm 1] at hback
    cases hdec : (decodeAll shape bytes reading).1 with
    | error e =>
      rw [hdec] at hback
      exact congrArg Except.error (Except.error.inj hback)
    | ok back => rw [hdec] at hback; nomatch hback

/-- A faction with a tag is read back; behind it, one without a tag is refused for the tag, on the third line. -/
theorem decodeAll_encode_factions :
    (∃ bytes, (encode Faction.shape [⟨1, 10, some (-3), none, 255, "VS", true⟩] .empty).1 = .ok bytes ∧
      ∃ back, (decodeAll Faction.shape bytes .empty).1 = .ok back ∧
        back.map Faction.shape.toSlots =
          [[.unsigned 1, .signed 10, .signed (-3), .null, .unsigned 255, .text "VS", .bool true]]) ∧
      ∃ bytes, (encode Faction.shape
          [⟨1, 10, some (-3), none, 255, "VS", true⟩, ⟨2, 11, none, some 8, 0, "", false⟩] .empty).1 = .ok bytes ∧
        (decodeAll Faction.shape bytes .empty).1 = .error ⟨.conversion "Faction" "code_tag" none .missing, some 3⟩ := by
  obtain ⟨schema, he⟩ := Faction.encodable
  constructor
  · have hfits : ∀ f ∈ [(⟨1, 10, some (-3), none, 255, "VS", true⟩ : Faction)], Faction.shape.FitsAll f := by
      intro f hf
      rw [List.mem_singleton.1 hf]
      exact Faction.fitsAll (by decide)
    obtain ⟨bytes, hbytes, hback, -⟩ := decodeAll_encode he hfits Registry.valid_empty Registry.valid_empty
    obtain ⟨back, hdecoded, hvalues, -⟩ := hback (by decide)
    exact ⟨bytes, hbytes, back, hdecoded, hvalues.trans (by decide)⟩
  · have hfits : ∀ f ∈ [(⟨1, 10, some (-3), none, 255, "VS", true⟩ : Faction), ⟨2, 11, none, some 8, 0, "", false⟩],
        Faction.shape.FitsAll f := by
      intro f hf
      rcases List.mem_cons.1 hf with rfl | hf
      · exact Faction.fitsAll (by decide)
      · rw [List.mem_singleton.1 hf]
        exact Faction.fitsAll (by decide)
    obtain ⟨bytes, hbytes, -, herror⟩ := decodeAll_encode he hfits Registry.valid_empty Registry.valid_empty
    exact ⟨bytes, hbytes, herror [_] _ [] (required "code_tag" .text) rfl (by decide) (by decide)⟩

end SheetQuery.Sheet
