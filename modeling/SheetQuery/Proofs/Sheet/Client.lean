import SheetQuery.Proofs.Sheet.Reader
import SheetQuery.Sheet.Client

/-!
# The shapes of the client

The typed readers of the client read what the readers of slots read, only that they give it another type. The records of the
client are put together by one such reader for each field, so they are among the shapes whose sheets read back.
-/

namespace SheetQuery.Sheet

open Decimal

variable {α : Type}

/-! ## Typed readers -/

namespace Slots

/-- A value that is taken and then changed is taken by the changed judgement. -/
theorem map_take {β : Type} (f : α → β) (judge : SlotValue → Except String α) :
    f <$> take judge = take fun value => f <$> judge value := by
  funext slots
  obtain ⟨declaration, values, position⟩ := slots
  cases values with
  | nil => rfl
  | cons value rest =>
    rw [map_apply, take_cons, take_cons]
    cases judge value <;> rfl

/-- A judgement that also accepts null, with its answer in a slot. -/
theorem map_orNull {judge : SlotValue → Except String α} {slot : α → SlotValue} {reader : SlotReader}
    (h : ∀ value, slot <$> judge value = reader.judge value) (value : SlotValue) :
    slotOfOption slot <$> orNull judge value = (·.getD .null) <$> orNull reader.judge value := by
  by_cases hnull : value = .null
  · subst hnull
    rfl
  · rw [orNull_of_ne hnull, orNull_of_ne hnull, ← h value]
    cases judge value <;> rfl

/-- A typed reader whose answers stand in slots as the reader of slots gives them. -/
theorem map_take_judge {judge : SlotValue → Except String α} {slot : α → SlotValue} {reader : SlotReader}
    (hopt : reader.optional = false) (h : ∀ value, slot <$> judge value = reader.judge value) :
    slot <$> take judge = reader.read := by
  rw [map_take, SlotReader.read, hopt, if_neg Bool.false_ne_true]
  exact congrArg take (funext h)

/-- A typed reader that takes null, whose answers stand in slots as the reader of slots gives them. -/
theorem map_take_orNull {judge : SlotValue → Except String α} {slot : α → SlotValue} {reader : SlotReader}
    (hopt : reader.optional = true) (h : ∀ value, slot <$> judge value = reader.judge value) :
    slotOfOption slot <$> take (orNull judge) = reader.read := by
  rw [map_take, SlotReader.read, if_pos hopt, map_take]
  exact congrArg take (funext (map_orNull h))

/-- A word without a sign stands in its slot as the integer of its width. -/
theorem slotOfUInt32_ofNat {i : Int} (h : IntWidth.u32.holds i = true) :
    slotOfUInt32 (UInt32.ofNat i.toNat) = .ofInt .u32 i := by
  have hwide := toNat_ofNat (show IntWidth.u32.signed = false from rfl) h
  rw [IntWidth.holds_iff] at h
  have hgreatest : i ≤ 4294967295 := h.2
  have hsize : i.toNat < UInt32.size := by
    have hsize : UInt32.size = 4294967296 := rfl
    omega
  have hword : (UInt32.ofNat i.toNat).toUInt64 = UInt64.ofNat i.toNat := by
    rw [← UInt64.toNat_inj, UInt32.toNat_toUInt64, UInt32.toNat_ofNat_of_lt' hsize]
    omega
  rw [slotOfUInt32, hword]
  rfl

/-- A word with a sign stands in its slot as the integer of its width. -/
theorem slotOfInt32_ofInt {i : Int} (h : IntWidth.i32.holds i = true) :
    slotOfInt32 (Int32.ofInt i) = .ofInt .i32 i := by
  have hwide := toInt_ofInt (show IntWidth.i32.signed = true from rfl) h
  rw [IntWidth.holds_iff] at h
  have hleast : -2 ^ 31 ≤ i := h.1
  have hgreatest : i < 2 ^ 31 := Int.lt_of_le_of_lt h.2 (by decide)
  have hword : (Int32.ofInt i).toInt64 = Int64.ofInt i := by
    rw [← Int64.toInt_inj, Int32.toInt_toInt64, Int32.toInt_ofInt_of_le hleast hgreatest, hwide]
  rw [slotOfInt32, hword]
  rfl

/-- The answer of an integer of a width in a slot, if a slot holds the integers of the width. -/
theorem map_asInteger {width : IntWidth} {word : Int → α} {slot : α → SlotValue} {optional : Bool}
    (h : ∀ i, width.holds i = true → slot (word i) = .ofInt width i) (value : SlotValue) :
    slot <$> (word <$> asInteger width value) = (SlotReader.int width optional).judge value := by
  have hwidth : ∀ i, slot <$> (word <$> inWidth width i) = SlotValue.ofInt width <$> inWidth width i := by
    intro i
    rw [inWidth]
    split
    · rename_i hi
      exact congrArg Except.ok (h i hi)
    · rfl
  cases value with
  | signed v => exact hwidth v.toInt
  | unsigned v => exact hwidth v.toNat
  | _ => rfl

theorem uint32_eq : slotOfUInt32 <$> uint32 = SlotReader.read (.int .u32 false) := by
  rw [uint32, map_take]
  exact map_take_judge rfl (map_asInteger fun _ hi => slotOfUInt32_ofNat hi)

theorem int32_eq : slotOfInt32 <$> int32 = SlotReader.read (.int .i32 false) := by
  rw [int32, map_take]
  exact map_take_judge rfl (map_asInteger fun _ hi => slotOfInt32_ofInt hi)

/-- Taking null or a changed answer is changing what was taken, if anything was. -/
theorem map_take_orNull_map {β : Type} (f : α → β) (judge : SlotValue → Except String α) :
    Option.map f <$> take (orNull judge) = take (orNull fun value => f <$> judge value) := by
  rw [map_take]
  refine congrArg take (funext fun value => ?_)
  cases value with
  | null => rfl
  | _ => simp only [orNull, Functor.map_map]; rfl

theorem uint32?_eq : slotOfOption slotOfUInt32 <$> uint32? = SlotReader.read (.int .u32 true) := by
  rw [uint32?, map_take_orNull_map]
  exact map_take_orNull rfl (map_asInteger fun _ hi => slotOfUInt32_ofNat hi)

theorem int32?_eq : slotOfOption slotOfInt32 <$> int32? = SlotReader.read (.int .i32 true) := by
  rw [int32?, map_take_orNull_map]
  exact map_take_orNull rfl (map_asInteger fun _ hi => slotOfInt32_ofInt hi)

theorem double_eq : SlotValue.float <$> double = SlotReader.read (.double false) :=
  map_take_judge rfl fun _ => rfl

theorem single?_eq : slotOfOption (fun x : Single => .float (x.convert .double)) <$> single? =
    SlotReader.read (.single true) :=
  map_take_orNull rfl fun _ => rfl

theorem bool_eq : SlotValue.bool <$> bool = SlotReader.read (.bool false) :=
  map_take_judge rfl fun _ => rfl

theorem text_eq : SlotValue.text <$> text = SlotReader.read (.text false) :=
  map_take_judge rfl fun _ => rfl

theorem imageType_eq : (fun index => SlotValue.enum (ImageType.ofIndex index).index) <$> member ImageType.members.length =
    SlotReader.read (.member ImageType.members.length) := by
  refine map_take_judge rfl fun value => ?_
  cases value with
  | enum index =>
    -- Only the three places that the reader accepts are the places of sizes.
    match index with
    | 0 | 1 | 2 => rfl
    | index + 3 =>
      have hbeyond : ¬index + 3 < ImageType.members.length := Nat.not_lt.2 (Nat.le_add_left 3 index)
      rw [SlotReader.judge, asMember, if_neg hbeyond]
      rfl
  | _ => rfl

end Slots

/-! ## Shapes -/

open Slots

/-- A shape whose records are put together as a list of readers reads, if what it reads is taken apart again. -/
theorem Shape.ReadBy.of_map {shape : Shape α} {readers : List SlotReader}
    (hm : List.Forall₂ SlotReader.Matches readers shape.declaration.fields)
    (h : shape.toSlots <$> shape.ofSlots = SlotReader.readAll readers) : shape.ReadBy readers := by
  refine ⟨hm, fun values => ?_⟩
  have hrun := map_apply shape.toSlots shape.ofSlots (start shape.declaration values)
  rw [h] at hrun
  exact (congrArg Prod.fst hrun).symm

/-- The readers of a currency. -/
def Currency.readers : List SlotReader :=
  [.int .u32 false, .int .i32 false, .int .i32 true, .int .u32 false, .int .u32 false, .int .u32 true]

/-- The readers of an award of experience. -/
def Experience.readers : List SlotReader :=
  [.int .u32 false, .int .u32 false, .int .i32 false, .double false, .single true]

/-- The readers of a faction. -/
def Faction.readers : List SlotReader :=
  [.int .u32 false, .int .i32 false, .int .i32 true, .int .u32 true, .int .u32 false, .text false, .bool false]

/-- The readers of an image of a set of images. -/
def ImageSetMapping.readers : List SlotReader :=
  [.int .u32 false, .int .u32 false, .member ImageType.members.length]

theorem Currency.readBy : Currency.shape.ReadBy Currency.readers := by
  refine .of_map (by repeat constructor) ?_
  simp only [readers, SlotReader.readAll, ← uint32_eq, ← int32_eq, ← int32?_eq, ← uint32?_eq, bind_map_left]
  simp only [shape, map_bind, map_pure, bind_pure_comp, Functor.map_map]

theorem Experience.readBy : Experience.shape.ReadBy Experience.readers := by
  refine .of_map (by repeat constructor) ?_
  simp only [readers, SlotReader.readAll, ← uint32_eq, ← int32_eq, ← double_eq, ← single?_eq, bind_map_left]
  simp only [shape, map_bind, map_pure, bind_pure_comp, Functor.map_map]

theorem Faction.readBy : Faction.shape.ReadBy Faction.readers := by
  refine .of_map (by repeat constructor) ?_
  simp only [readers, SlotReader.readAll, ← uint32_eq, ← int32_eq, ← int32?_eq, ← uint32?_eq, ← text_eq, ← bool_eq,
    bind_map_left]
  simp only [shape, map_bind, map_pure, bind_pure_comp, Functor.map_map]

theorem ImageSetMapping.readBy : ImageSetMapping.shape.ReadBy ImageSetMapping.readers := by
  refine .of_map (by repeat constructor) ?_
  simp only [readers, SlotReader.readAll, ← uint32_eq, ← imageType_eq, bind_map_left]
  simp only [shape, map_bind, map_pure, bind_pure_comp, Functor.map_map]

/-- The sheets of currencies can be written and read back. -/
theorem Currency.encodable : ∃ schema, Currency.shape.Encodable schema Currency.readers :=
  ⟨_, rfl, by decide, Currency.readBy⟩

/-- The sheets of awards of experience can be written and read back. -/
theorem Experience.encodable : ∃ schema, Experience.shape.Encodable schema Experience.readers :=
  ⟨_, rfl, by decide, Experience.readBy⟩

/-- The sheets of factions can be written and read back. -/
theorem Faction.encodable : ∃ schema, Faction.shape.Encodable schema Faction.readers :=
  ⟨_, rfl, by decide, Faction.readBy⟩

/-- The sheets of images can be written and read back. -/
theorem ImageSetMapping.encodable : ∃ schema, ImageSetMapping.shape.Encodable schema ImageSetMapping.readers :=
  ⟨_, rfl, by decide, ImageSetMapping.readBy⟩

/-! ## Records -/

theorem holds_slotOfUInt32 (n : UInt32) : (FieldType.int .u32).Holds (slotOfUInt32 n) := by
  have hn : n.toNat < 2 ^ 32 := n.toNat_lt
  have hholds : IntWidth.u32.holds n.toNat = true := by
    have hgreatest : IntWidth.u32.greatest = 2 ^ 32 - 1 := rfl
    rw [IntWidth.holds_iff, hgreatest]
    exact ⟨Int.natCast_nonneg _, by omega⟩
  refine ⟨n.toNat, hholds, ?_⟩
  have hword := slotOfUInt32_ofNat hholds
  rwa [Int.toNat_natCast, UInt32.ofNat_toNat] at hword

theorem holds_slotOfInt32 (n : Int32) : (FieldType.int .i32).Holds (slotOfInt32 n) := by
  have hholds : IntWidth.i32.holds n.toInt = true := by
    have hleast : IntWidth.i32.least = -2 ^ 31 := rfl
    have hgreatest : IntWidth.i32.greatest = 2 ^ 31 - 1 := rfl
    have hn := n.le_toInt
    have hn' := n.toInt_lt
    rw [IntWidth.holds_iff, hleast, hgreatest]
    omega
  refine ⟨n.toInt, hholds, ?_⟩
  have hword := slotOfInt32_ofInt hholds
  rwa [Int32.ofInt_toInt] at hword

/-- A word without a sign fits a field for one. -/
theorem fits_slotOfUInt32 (name : String) (nullable : Bool) (n : UInt32) :
    Field.Fits ⟨name, .int .u32, nullable⟩ (slotOfUInt32 n) :=
  .inr ⟨holds_slotOfUInt32 n, trivial, trivial⟩

/-- A word with a sign fits a field for one. -/
theorem fits_slotOfInt32 (name : String) (nullable : Bool) (n : Int32) :
    Field.Fits ⟨name, .int .i32, nullable⟩ (slotOfInt32 n) :=
  .inr ⟨holds_slotOfInt32 n, trivial, trivial⟩

/-- A value that may be absent fits a field if it does where it is present. -/
theorem fits_slotOfOption {slot : α → SlotValue} {field : Field} (h : ∀ x, field.Fits (slot x)) (x : Option α) :
    field.Fits (slotOfOption slot x) := by
  cases x with
  | none => exact .inl rfl
  | some x => exact h x

/-- Every currency fits its sheet. -/
theorem Currency.fitsAll (c : Currency) : Currency.shape.FitsAll c :=
  .cons (fits_slotOfUInt32 _ _ _) (.cons (fits_slotOfInt32 _ _ _) (.cons (fits_slotOfOption (fits_slotOfInt32 _ _) _)
    (.cons (fits_slotOfUInt32 _ _ _) (.cons (fits_slotOfUInt32 _ _ _)
      (.cons (fits_slotOfOption (fits_slotOfUInt32 _ _) _) .nil)))))

/-- A faction fits its sheet if its tag can stand in a cell. -/
theorem Faction.fitsAll {f : Faction} (h : isCellText f.codeTag = true) : Faction.shape.FitsAll f :=
  .cons (fits_slotOfUInt32 _ _ _) (.cons (fits_slotOfInt32 _ _ _) (.cons (fits_slotOfOption (fits_slotOfInt32 _ _) _)
    (.cons (fits_slotOfOption (fits_slotOfUInt32 _ _) _) (.cons (fits_slotOfUInt32 _ _ _)
      (.cons (.inr ⟨trivial, trivial, h⟩) (.cons (.inr ⟨trivial, trivial, trivial⟩) .nil))))))

/-- Every image fits its sheet. -/
theorem ImageSetMapping.fitsAll (m : ImageSetMapping) : ImageSetMapping.shape.FitsAll m := by
  have hindex : m.imageType.index < ImageType.members.length := by
    cases m.imageType <;> decide
  exact .cons (fits_slotOfUInt32 _ _ _) (.cons (fits_slotOfUInt32 _ _ _) (.cons (.inr ⟨hindex, trivial, trivial⟩) .nil))

end SheetQuery.Sheet
