import Mathlib.Data.List.Forall2
import SheetQuery.Ingest.Builder
import SheetQuery.Proofs.Decimal.Widening
import SheetQuery.Proofs.Sorting.Successive
import SheetQuery.Query.Catalog

/-!
# Documents as declared

A collection is declared twice: the builder of its documents names their members, and the catalog names the fields that can
be asked for. Record by record the two agree. The members of a document are the fields of the catalog in their order, and each
shows the value of the record in the slot at its place as one of the kind of the field (`MembersOf`). A member is null only
where the record has no value, or one that is no finite number.
-/

namespace SheetQuery

open Decimal

/-! ## Finite numbers of 32 bits -/

namespace Decimal

/-- A number of 32 bits is finite in 64 bits exactly when it is finite. -/
theorem exists_finite_convert_iff {x : Single} : (∃ y, x.convert .double = .finite y) ↔ ∃ y, x = .finite y := by
  have hback := convert_convert x
  constructor
  · rintro ⟨y, hy⟩
    cases x with
    | nan | infinite => nomatch hy
    | finite x => exact ⟨x, rfl⟩
  · rintro ⟨y, rfl⟩
    cases hwide : (Binary.finite y).convert .double with
    | finite z => exact ⟨z, rfl⟩
    | nan | infinite =>
      rw [hwide] at hback
      nomatch hback

end Decimal

namespace Ingest

open Sheet Query

/-! ## Members -/

/-- How a value of a record is shown as one of a kind, when the sheet declares it as this field: as it is; as null if the field
may be absent and is, or if it is no finite number. -/
inductive Shows (field : Field) : FieldKind → SlotValue → Json → Prop where
  | absent {kind : FieldKind} (optional : field.nullable = true) : Shows field kind .null .null
  | unsigned {n : UInt64} {i : Int} (fits : FitsInteger i) (same : n.toNat = i) :
      Shows field .integer (.unsigned n) (.num (.int i fits))
  | signed {n : Int64} {i : Int} (fits : FitsInteger i) (same : n.toInt = i) :
      Shows field .integer (.signed n) (.num (.int i fits))
  | finite {x : Finite .double} : Shows field .float (.float (.finite x)) (.num (.float x))
  | notFinite {x : Double} (h : ∀ y, x ≠ .finite y) : Shows field .float (.float x) .null
  | truth {b : Bool} : Shows field .truth (.bool b) (.bool b)
  | text {s : String} : Shows field .string (.text s) (.str s)
  | name {names : List String} {i : Nat} {s : String} (type : field.type = .enum names) (place : names[i]? = some s) :
      Shows field .string (.enum i) (.str s)

/-- The members of a document that has the declared fields in their order, each showing the value of the record in the slot at
its place. -/
inductive MembersOf : List FieldInfo → List Field → List SlotValue → List (String × Json) → Prop where
  | nil : MembersOf [] [] [] []
  | cons {declared : FieldInfo} {field : Field} {slot : SlotValue} {value : Json} {fields : List FieldInfo}
      {sheet : List Field} {slots : List SlotValue} {members : List (String × Json)}
      (shows : Shows field declared.kind slot value) (rest : MembersOf fields sheet slots members) :
      MembersOf (declared :: fields) (field :: sheet) (slot :: slots) ((declared.name, value) :: members)

section Values

variable {field : Field}

theorem shows_uint32 (n : UInt32) : Shows field .integer (slotOfUInt32 n) (.ofUInt32 n) :=
  .unsigned _ (congrArg Int.ofNat (UInt32.toNat_toUInt64 n))

theorem shows_int32 (n : Int32) : Shows field .integer (slotOfInt32 n) (.ofInt32 n) :=
  .signed _ (Int32.toInt_toInt64 n)

theorem shows_double (x : Double) : Shows field .float (.float x) (.ofDouble x) := by
  cases x with
  | finite x => exact .finite
  | nan | infinite => exact .notFinite fun y hy => nomatch hy

theorem shows_imageType {name : String} {nullable : Bool} (type : ImageType) :
    Shows ⟨name, .enum ImageType.members, nullable⟩ .string (.enum type.index) (.str type.name) := by
  refine .name rfl ?_
  cases type <;> rfl

/-- A value that may be absent is shown as the value, or as null. -/
theorem shows_ofOption {α : Type} {kind : FieldKind} {slot : α → SlotValue} {encode : α → Json}
    (optional : field.nullable = true) (h : ∀ x, Shows field kind (slot x) (encode x)) (value : Option α) :
    Shows field kind (slotOfOption slot value) (.ofOption encode value) := by
  cases value with
  | none => exact .absent optional
  | some x => exact h x

end Values

/-! ## Documents -/

/-- Whether a document is that of a record: an object with the members that are declared for the collection. -/
def IsDocumentOf {α : Type} (collection : Collection) (shape : Shape α) (record : α) (document : Json) : Prop :=
  ∃ members, document = .obj members ∧
    MembersOf collection.fields shape.declaration.fields (shape.toSlots record) members

theorem isDocumentOf_currency (c : Currency) :
    IsDocumentOf Catalog.currency Currency.shape c (Builder.currencyDocument c) :=
  ⟨_, rfl, .cons (shows_uint32 _) <| .cons (shows_int32 _) <| .cons (shows_ofOption rfl shows_int32 _) <|
    .cons (shows_uint32 _) <| .cons (shows_uint32 _) <| .cons (shows_ofOption rfl shows_uint32 _) .nil⟩

theorem isDocumentOf_experience (e : Experience) :
    IsDocumentOf Catalog.experience Experience.shape e (Builder.experienceDocument e) :=
  ⟨_, rfl, .cons (shows_uint32 _) <| .cons (shows_uint32 _) <| .cons (shows_int32 _) <| .cons (shows_double _) <|
    .cons (shows_ofOption rfl (fun _ => shows_double _) _) .nil⟩

theorem isDocumentOf_faction (f : Faction) :
    IsDocumentOf Catalog.faction Faction.shape f (Builder.factionDocument f) :=
  ⟨_, rfl, .cons (shows_uint32 _) <| .cons (shows_int32 _) <| .cons (shows_ofOption rfl shows_int32 _) <|
    .cons (shows_ofOption rfl shows_uint32 _) <| .cons (shows_uint32 _) <| .cons .text <| .cons .truth .nil⟩

theorem isDocumentOf_imageSet (m : ImageSetMapping) :
    IsDocumentOf Catalog.imageSet ImageSetMapping.shape m (Builder.imageSetDocument m) :=
  ⟨_, rfl, .cons (shows_uint32 _) <| .cons (shows_uint32 _) <| .cons (shows_imageType _) .nil⟩

/-! ## Builders -/

/-- A builder makes what is declared: of the records of its sheet the documents that the catalog declares, one of each record,
in ascending order by a comparison and in the order of the sheet where it finds two equal. If the sheet is missing, that is
the error. -/
structure MakesDeclared {α : Type} (builder : Builder) (records : ClientData → Option (List α)) (file : String)
    (shape : Shape α) (cmp : α → α → Ordering) : Prop where
  made : ∀ data found, records data = some found →
    ∃ collection sorted documents, Catalog.builtin.find? builder.collection = some collection ∧
      builder.build data = .ok documents ∧ StablySortedBy cmp found sorted ∧
      List.Forall₂ (IsDocumentOf collection shape) sorted documents
  missing : ∀ data, records data = none → builder.build data = .error (.missingSection file)

section Builders

variable {α : Type} {less : α → α → Bool} {cmp : α → α → Ordering}

/-- A builder that makes a document of each record of a sheet, sorted by a comparison that is an order, makes what is declared
if each document is that of its record. -/
theorem makesDeclared [Std.TransCmp cmp] {builder : Builder} {collection : Collection}
    {records : ClientData → Option (List α)} {file : String} {shape : Shape α} {document : α → Json}
    (hcollection : Catalog.builtin.find? builder.collection = some collection)
    (hless : ∀ a b, less a b = (cmp a b).isLT)
    (hbuild : ∀ data, builder.build data =
      (ClientData.require file (records data)).map fun found => (stableSort less found).map document)
    (hdocument : ∀ record, IsDocumentOf collection shape record (document record)) :
    MakesDeclared builder records file shape cmp := by
  obtain rfl : less = fun a b => (cmp a b).isLT := funext fun a => funext (hless a)
  constructor
  · intro data found hfound
    let sorted := stableSort (fun a b => (cmp a b).isLT) found
    refine ⟨collection, sorted, sorted.map document, hcollection, ?_, stablySortedBy_of_transCmp cmp found, ?_⟩
    · rw [hbuild, hfound]
      rfl
    · rw [List.forall₂_map_right_iff]
      exact List.forall₂_same.2 fun record _ => hdocument record
  · intro data hmissing
    rw [hbuild, hmissing]
    rfl

/-- A number comes before another when it compares as less. -/
theorem lt_eq_isLT (key : α → UInt32) (a b : α) : decide (key a < key b) = (compareOn key a b).isLT := by
  rw [Bool.eq_iff_iff, decide_eq_true_iff, Ordering.isLT_iff_eq_lt, compareOn, Std.compare_eq_lt]

theorem beq_eq_isEq (key : α → UInt32) (a b : α) : (key a == key b) = (compareOn key a b).isEq := by
  rw [Bool.eq_iff_iff, beq_iff_eq, Ordering.isEq_iff_eq_eq, compareOn, Std.compare_eq_eq_iff_eq]

theorem imageSetBefore_eq (a b : ImageSetMapping) :
    Builder.imageSetBefore a b = (compareLex (compareOn (·.imageSetId)) (compareOn (·.imageId)) a b).isLT := by
  rw [Builder.imageSetBefore, compareLex, Ordering.isLT_then, ← lt_eq_isLT, ← lt_eq_isLT, ← beq_eq_isEq]

/-- The builders make what the catalog declares: three of them in the order of the numbers of the records, the one of images in
that of their sets and then of the images. A radius is null because it is not finite only if it was not finite before it was
widened. -/
theorem builders_makeDeclared :
    MakesDeclared .currency (·.currency) Currency.fileName Currency.shape (compareOn (·.id)) ∧
      MakesDeclared .experience (·.experience) Experience.fileName Experience.shape (compareOn (·.id)) ∧
      MakesDeclared .faction (·.factions) Faction.fileName Faction.shape (compareOn (·.id)) ∧
      MakesDeclared .imageSet (·.imageSetMappings) ImageSetMapping.fileName ImageSetMapping.shape
        (compareLex (compareOn (·.imageSetId)) (compareOn (·.imageId))) ∧
      ∀ x : Single, (∃ y, x.convert .double = .finite y) ↔ ∃ y, x = .finite y :=
  ⟨makesDeclared rfl (lt_eq_isLT _) (fun _ => rfl) isDocumentOf_currency,
    makesDeclared rfl (lt_eq_isLT _) (fun _ => rfl) isDocumentOf_experience,
    makesDeclared rfl (lt_eq_isLT _) (fun _ => rfl) isDocumentOf_faction,
    makesDeclared rfl imageSetBefore_eq (fun _ => rfl) isDocumentOf_imageSet,
    fun _ => exists_finite_convert_iff⟩

end Builders

end Ingest

end SheetQuery
