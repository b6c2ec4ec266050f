import SheetQuery.Proofs.Sheet.Client

/-!
# Slots read in step

A reader takes the value in front of it whether or not it likes it, and the name in its error is that of the field at the same
place. So of any readers that read one after the other the one at a place answers for the value at that place, whatever those
before it have answered, and those behind the last value all miss the value of one and the same field
(`readEach_inStep`). The typed readers of records are these readers, with answers of other types (`uint32_eq` and its
companions).
-/

namespace SheetQuery.Sheet

open Decimal Slots

/-- The integer that a value is, with a sign or without one. -/
def SlotValue.integer? : SlotValue → Option Int
  | .signed v => some v.toInt
  | .unsigned v => some v.toNat
  | _ => none

/-- An integer of a width is still the same integer in a slot. -/
theorem integer?_ofInt {width : IntWidth} {i : Int} (h : width.holds i = true) :
    (SlotValue.ofInt width i).integer? = some i := by
  cases hs : width.signed with
  | true => rw [SlotValue.ofInt, if_pos hs, SlotValue.integer?, toInt_ofInt hs h]
  | false => rw [SlotValue.ofInt, hs, if_neg Bool.false_ne_true, SlotValue.integer?, toNat_ofNat hs h]

namespace SlotReader

/-- The name of the field at a place, or a phrase past the last field. -/
def nameAt (declaration : Declaration) (place : Nat) : String :=
  ((declaration.fields[place]?).map Field.name).getD "<past end>"

theorem fieldName_eq (declaration : Declaration) (place : Nat) : fieldName declaration place = nameAt declaration place := by
  unfold fieldName nameAt
  cases declaration.fields[place]? <;> rfl

/-- The same reader, except that it takes no null. -/
def required : SlotReader → SlotReader
  | .int width _ => .int width false
  | .double _ => .double false
  | .single _ => .single false
  | .bool _ => .bool false
  | .text _ => .text false
  | .member members => .member members

/-- What readers answer that read one after the other: each goes on with the slots that the one before it has left, whether
or not that one had an error. -/
def readEach : List SlotReader → Slots → List (Except SheetError SlotValue)
  | [], _ => []
  | reader :: readers, slots => (reader.read slots).1 :: readEach readers (reader.read slots).2

/-- What a reader answers when the only value left is the one at a place of the line. -/
def readAlone (reader : SlotReader) (declaration : Declaration) (place : Nat) (value : SlotValue) :
    Except SheetError SlotValue :=
  (reader.read ⟨declaration, [value], place⟩).1

/-- Whether an answer is that of a reader for the value at a place of a line. -/
structure Answers (reader : SlotReader) (declaration : Declaration) (place : Nat) (value : SlotValue)
    (answer : Except SheetError SlotValue) : Prop where
  /-- Nothing but this value counts. -/
  alone : answer = reader.readAlone declaration place value
  /-- An error is about the field at the same place, and the value found there. -/
  named : ∀ error, answer = .error error → ∃ wanted,
    error = .ofFault (.slotMismatch declaration.shape (nameAt declaration place) (.expected wanted value.kind))
  /-- An integer is read exactly when there is one and it has the width. -/
  integer : ∀ width optional, reader = .int width optional → ∀ result, result ≠ .null →
    (answer = .ok result ↔
      ∃ i, value.integer? = some i ∧ width.holds i = true ∧ result = .ofInt width i ∧ result.integer? = some i)
  /-- A reader that takes null differs from the one that does not in taking it. -/
  optional : reader.optional = true →
    answer = if value = .null then .ok .null else reader.required.readAlone declaration place value
  /-- Nothing else is read as null. -/
  absent : answer = .ok .null ↔ reader.optional = true ∧ value = .null

/-! ## One value -/

/-- What a reader says of a value: that it is null, if the reader takes that, or what its judgement says. -/
def verdict (reader : SlotReader) (value : SlotValue) : Except String SlotValue :=
  if reader.optional = true ∧ value = .null then .ok .null else reader.judge value

variable {reader : SlotReader} {declaration : Declaration} {place : Nat} {value : SlotValue}

/-- To read is to take the next value and give the verdict on it. -/
theorem read_eq_take (reader : SlotReader) : reader.read = take reader.verdict := by
  unfold read
  by_cases hopt : reader.optional = true
  · rw [if_pos hopt, map_take]
    refine congrArg take (funext fun value => ?_)
    by_cases hnull : value = .null
    · rw [verdict, if_pos ⟨hopt, hnull⟩, hnull]
      rfl
    · rw [verdict, if_neg fun h => hnull h.2, orNull_of_ne hnull]
      cases reader.judge value <;> rfl
  · rw [if_neg hopt]
    refine congrArg take (funext fun value => ?_)
    rw [verdict, if_neg fun h => hopt h.1]

/-- A reader answers for the next value alone, and the value is then gone. -/
theorem read_cons (reader : SlotReader) (declaration : Declaration) (value : SlotValue) (rest : List SlotValue) (place : Nat) :
    reader.read ⟨declaration, value :: rest, place⟩ =
      (reader.readAlone declaration place value, ⟨declaration, rest, place + 1⟩) := by
  rw [readAlone, read_eq_take, take_cons, take_cons]

/-- A reader that finds no value misses the one of the field it has come to, and stays there. -/
theorem read_nil (reader : SlotReader) (declaration : Declaration) (place : Nat) :
    reader.read ⟨declaration, [], place⟩ =
      (.error (.ofFault (.slotMismatch declaration.shape (nameAt declaration place) .missing)), ⟨declaration, [], place⟩) := by
  rw [read_eq_take, ← fieldName_eq]
  rfl

/-- The answer for a value is the verdict on it, an error being put down to the field at the place. -/
theorem readAlone_eq : reader.readAlone declaration place value =
    match reader.verdict value with
    | .ok answer => .ok answer
    | .error wanted => .error (.ofFault (.slotMismatch declaration.shape (nameAt declaration place)
        (.expected wanted value.kind))) := by
  rw [readAlone, read_eq_take, take_cons, fieldName_eq]
  cases reader.verdict value <;> rfl

theorem readAlone_eq_ok_iff {result : SlotValue} :
    reader.readAlone declaration place value = .ok result ↔ reader.verdict value = .ok result := by
  rw [readAlone_eq]
  cases reader.verdict value <;> simp

/-- The judgement of a reader is the same, whether or not it takes null. -/
theorem verdict_required : reader.required.verdict value = reader.judge value := by
  cases reader <;> rfl

/-- No judgement accepts null. -/
theorem judge_null_ne {result : SlotValue} : reader.judge .null ≠ .ok result := by
  intro h
  cases reader <;> nomatch h

/-- What is read other than null is what the judgement says. -/
theorem verdict_eq_ok_iff {result : SlotValue} (hresult : result ≠ .null) :
    reader.verdict value = .ok result ↔ reader.judge value = .ok result := by
  unfold verdict
  split
  · rename_i h
    rw [h.2]
    exact ⟨fun hok => absurd (Except.ok.inj hok).symm hresult, fun hok => absurd hok judge_null_ne⟩
  · rfl

/-- No judgement makes null of a value. -/
theorem judge_ne_null : reader.judge value ≠ .ok .null := by
  intro h
  cases reader with
  | int width =>
    obtain ⟨i, -, hi⟩ := exists_of_map_ok h
    have hnull := congrArg SlotValue.isNull hi
    rw [isNull_ofInt] at hnull
    nomatch hnull
  | double =>
    obtain ⟨x, -, hx⟩ := exists_of_map_ok h
    nomatch hx
  | single =>
    obtain ⟨x, -, hx⟩ := exists_of_map_ok h
    nomatch hx
  | bool =>
    obtain ⟨b, -, hb⟩ := exists_of_map_ok h
    nomatch hb
  | text =>
    obtain ⟨s, -, hs⟩ := exists_of_map_ok h
    nomatch hs
  | member =>
    obtain ⟨index, -, hindex⟩ := exists_of_map_ok h
    nomatch hindex

theorem inWidth_eq_ok_iff {width : IntWidth} {i j : Int} : inWidth width i = .ok j ↔ i = j ∧ width.holds i = true := by
  unfold inWidth
  split <;> simp_all

/-- The integers of a width are what its judgement accepts. -/
theorem asInteger_eq_ok_iff {width : IntWidth} {i : Int} :
    asInteger width value = .ok i ↔ value.integer? = some i ∧ width.holds i = true := by
  cases value with
  | signed v =>
    rw [asInteger, inWidth_eq_ok_iff, SlotValue.integer?, Option.some_inj]
    exact and_congr_right fun h => by rw [h]
  | unsigned v =>
    rw [asInteger, inWidth_eq_ok_iff, SlotValue.integer?, Option.some_inj]
    exact and_congr_right fun h => by rw [h]
  | _ => simp [asInteger, SlotValue.integer?]

/-- An integer is read exactly when the value is one of the width, and then it is that one. -/
theorem judge_int_eq_ok_iff {width : IntWidth} {optional : Bool} {result : SlotValue} :
    (SlotReader.int width optional).judge value = .ok result ↔
      ∃ i, value.integer? = some i ∧ width.holds i = true ∧ result = .ofInt width i ∧ result.integer? = some i := by
  rw [judge]
  constructor
  · intro h
    obtain ⟨i, hi, hresult⟩ := exists_of_map_ok h
    obtain ⟨hvalue, hwidth⟩ := asInteger_eq_ok_iff.1 hi
    exact ⟨i, hvalue, hwidth, hresult.symm, hresult ▸ integer?_ofInt hwidth⟩
  · rintro ⟨i, hvalue, hwidth, rfl, -⟩
    rw [asInteger_eq_ok_iff.2 ⟨hvalue, hwidth⟩]
    rfl

/-- The answer of a reader for a value at a place. -/
theorem answers_readAlone (reader : SlotReader) (declaration : Declaration) (place : Nat) (value : SlotValue) :
    reader.Answers declaration place value (reader.readAlone declaration place value) where
  alone := rfl
  named := by
    intro error h
    rw [readAlone_eq] at h
    split at h
    · nomatch h
    · exact ⟨_, (Except.error.inj h).symm⟩
  integer := by
    rintro width optional rfl result hresult
    rw [readAlone_eq_ok_iff, verdict_eq_ok_iff hresult, judge_int_eq_ok_iff]
  optional := by
    intro hopt
    split
    · rename_i hnull
      rw [readAlone_eq_ok_iff, verdict, if_pos ⟨hopt, hnull⟩]
    · rename_i hnull
      rw [readAlone_eq, readAlone_eq, verdict_required, verdict, if_neg fun h => hnull h.2]
  absent := by
    rw [readAlone_eq_ok_iff, verdict]
    split
    · rename_i h
      exact ⟨fun _ => h, fun _ => rfl⟩
    · rename_i h
      exact ⟨fun hjudge => absurd hjudge judge_ne_null, fun hnull => absurd hnull h⟩

/-! ## One reader after the other -/

/-- Every reader has an answer. -/
theorem length_readEach (readers : List SlotReader) (slots : Slots) : (readEach readers slots).length = readers.length := by
  induction readers generalizing slots with
  | nil => rfl
  | cons reader readers ih => rw [readEach, List.length_cons, List.length_cons, ih]

/-- The reader at a place answers for the value at that place. -/
theorem getElem?_readEach {readers : List SlotReader} {i : Nat} (hreader : readers[i]? = some reader)
    {values : List SlotValue} (hvalue : values[i]? = some value) (declaration : Declaration) (place : Nat) :
    (readEach readers ⟨declaration, values, place⟩)[i]? = some (reader.readAlone declaration (place + i) value) := by
  induction readers generalizing values i place with
  | nil => nomatch hreader
  | cons first readers ih =>
    cases values with
    | nil => nomatch hvalue
    | cons next values =>
      rw [readEach, read_cons]
      cases i with
      | zero =>
        obtain rfl : first = reader := Option.some.inj hreader
        obtain rfl : next = value := Option.some.inj hvalue
        rfl
      | succ i =>
        -- Whatever the first reader answered, the next one starts at the next value and the next place.
        have hrest := ih hreader hvalue (place + 1)
        rw [List.getElem?_cons_succ, hrest, Nat.add_assoc, Nat.add_comm 1]

/-- Past the last value every reader misses the value of the field behind those that were read. -/
theorem getElem?_readEach_of_le {readers : List SlotReader} {i : Nat} (hreader : readers[i]? = some reader)
    {values : List SlotValue} (hend : values.length ≤ i) (declaration : Declaration) (place : Nat) :
    (readEach readers ⟨declaration, values, place⟩)[i]? =
      some (.error (.ofFault (.slotMismatch declaration.shape (nameAt declaration (place + values.length)) .missing))) := by
  induction readers generalizing values i place with
  | nil => nomatch hreader
  | cons first readers ih =>
    cases values with
    | nil =>
      rw [readEach, read_nil]
      cases i with
      | zero => rfl
      | succ i =>
        have hbehind : ([] : List SlotValue).length ≤ i := Nat.zero_le i
        exact ih hreader hbehind place
    | cons next values =>
      rw [readEach, read_cons]
      cases i with
      | zero => exact absurd hend (Nat.not_succ_le_zero _)
      | succ i =>
        have hrest := ih hreader (Nat.le_of_succ_le_succ hend) (place + 1)
        rw [List.getElem?_cons_succ, hrest, List.length_cons, Nat.add_assoc, Nat.add_comm 1]

/-- Readers and values stay in step. However many readers there are, each has an answer. The one at a place answers for the
value at that place; behind the last value, every one of them misses the value of the field there. -/
theorem readEach_inStep (declaration : Declaration) (values : List SlotValue) (readers : List SlotReader) :
    (readEach readers (Slots.start declaration values)).length = readers.length ∧
      ∀ i reader, readers[i]? = some reader →
        ∃ answer, (readEach readers (Slots.start declaration values))[i]? = some answer ∧
          (∀ value, values[i]? = some value → reader.Answers declaration i value answer) ∧
          (values.length ≤ i → answer =
            .error (.ofFault (.slotMismatch declaration.shape (nameAt declaration values.length) .missing))) := by
  refine ⟨length_readEach _ _, fun i reader hreader => ?_⟩
  cases hvalue : values[i]? with
  | some value =>
    have hread := getElem?_readEach hreader hvalue declaration 0
    rw [Nat.zero_add] at hread
    refine ⟨_, hread, ?_, ?_⟩
    · rintro value' hvalue'
      obtain rfl : value = value' := Option.some.inj hvalue'
      exact answers_readAlone reader declaration i value
    · intro hend
      rw [List.getElem?_eq_none hend] at hvalue
      nomatch hvalue
  | none =>
    have hread := getElem?_readEach_of_le hreader (List.getElem?_eq_none_iff.1 hvalue) declaration 0
    rw [Nat.zero_add] at hread
    exact ⟨_, hread, fun _ h => (nomatch h), fun _ => rfl⟩

/-- A text where a number is expected and a number that is too great leave the next readers in step; the last two find no value
behind the only fields there are. -/
theorem readEach_inStep_misfits :
    let readers : List SlotReader := [.int .u8 false, .int .u8 true, .bool false, .text true]
    let declaration : Declaration := ⟨"sample", [⟨"id", .int .u8, false⟩, ⟨"label", .text, true⟩]⟩
    let answers := readEach readers (Slots.start declaration [.text "x", .unsigned 300])
    answers[1]? = some (.error (.ofFault (.slotMismatch "sample" "label"
        (.expected "integer within declared width" "unsigned integer")))) ∧
      answers[3]? = some (.error (.ofFault (.slotMismatch "sample" "<past end>" .missing))) := by
  intro readers declaration answers
  obtain ⟨-, hstep⟩ := readEach_inStep declaration [.text "x", .unsigned 300] readers
  obtain ⟨second, hsecond, hfor, -⟩ := hstep 1 (.int .u8 true) rfl
  obtain ⟨last, hlast, -, hend⟩ := hstep 3 (.text true) rfl
  exact ⟨hsecond.trans (congrArg some (hfor (.unsigned 300) rfl).alone), hlast.trans (congrArg some (hend (by decide)))⟩

end SlotReader

end SheetQuery.Sheet
