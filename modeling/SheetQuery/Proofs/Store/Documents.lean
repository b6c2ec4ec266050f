import Mathlib.Logic.Function.Basic
import SheetQuery.Ingest.Builder
import SheetQuery.Json.Reader
import SheetQuery.Proofs.Outcome
import SheetQuery.Proofs.Store.Rendering

/-!
# Where documents come from

No object of a document has a key twice, wherever the document comes from. In a text a key that comes again takes the place
of the first. A builder writes each key once. And a store that is given such documents has no others, and has them where they
were put.
-/

namespace SheetQuery

namespace Json

/-! ## Values -/

@[simp] theorem isObj_str (text : String) : (str text).isObj = false := rfl

@[simp] theorem isObj_bool (value : Bool) : (bool value).isObj = false := rfl

@[simp] theorem isObj_ofUInt32 (n : UInt32) : (ofUInt32 n).isObj = false := rfl

@[simp] theorem isObj_ofInt32 (n : Int32) : (ofInt32 n).isObj = false := rfl

@[simp] theorem isObj_ofDouble (x : Decimal.Double) : (ofDouble x).isObj = false := by
  cases x <;> rfl

theorem isObj_ofOption {α : Type} {encode : α → Json} (h : ∀ x, (encode x).isObj = false) (value : Option α) :
    (ofOption encode value).isObj = false := by
  cases value with
  | none => rfl
  | some x => exact h x

/-! ## Texts -/

/-- Members that are written one after the other make an object without doubled keys. -/
theorem distinct_ofList {entries : List (String × Json)} (h : ∀ entry ∈ entries, Distinct entry.2) :
    Distinct (.obj (Members.ofList entries)) := by
  refine distinct_obj_iff.2 ⟨Members.nodup_keys_ofList entries, fun key value hvalue => ?_⟩
  rw [Members.get?_ofList, Option.map_eq_some_iff] at hvalue
  obtain ⟨entry, hentry, rfl⟩ := hvalue
  exact h entry (List.mem_reverse.1 (List.mem_of_find?_eq_some hentry))

/-- The members that are written have values that are written, one level further down. -/
theorem exists_of_mem_ofMembers? {depth : Nat} {members : List (List Char × Source)} {entries : List (String × Json)}
    (h : ofMembers? depth members = some entries) {entry : String × Json} (hentry : entry ∈ entries) :
    ∃ source, ofSource? depth source = some entry.2 := by
  induction members generalizing entries with
  | nil =>
    rw [ofMembers?] at h
    obtain rfl := Option.some.inj h
    nomatch hentry
  | cons first members ih =>
    obtain ⟨key, source⟩ := first
    rw [ofMembers?] at h
    obtain ⟨name, -, h⟩ := Option.bind_eq_some_iff.1 h
    obtain ⟨value, hvalue, h⟩ := Option.bind_eq_some_iff.1 h
    obtain ⟨rest, hrest, h⟩ := Option.bind_eq_some_iff.1 h
    obtain rfl := Option.some.inj h
    rcases List.mem_cons.1 hentry with rfl | hentry
    · exact ⟨source, hvalue⟩
    · exact ih hrest hentry

/-- An object comes from an object as written, whose members are one level further down. -/
theorem exists_of_ofSource?_obj {depth : Nat} {source : Source} {members : List (String × Json)}
    (h : ofSource? depth source = some (.obj members)) :
    ∃ below written entries, depth = below + 1 ∧ ofMembers? below written = some entries ∧
      members = Members.ofList entries := by
  cases source with
  | obj written =>
    cases depth with
    | zero =>
      rw [ofSource?] at h
      nomatch h
    | succ below =>
      rw [ofSource?, Option.map_eq_some_iff] at h
      obtain ⟨entries, hentries, hobj⟩ := h
      exact ⟨below, written, entries, rfl, hentries, (Json.obj.inj hobj).symm⟩
  | arr items =>
    cases depth with
    | zero =>
      rw [ofSource?] at h
      nomatch h
    | succ below =>
      rw [ofSource?, Option.map_eq_some_iff] at h
      obtain ⟨values, -, harr⟩ := h
      nomatch harr
  | num literal =>
    rw [ofSource?] at h
    obtain ⟨parts, -, h⟩ := Option.bind_eq_some_iff.1 h
    obtain ⟨number, -, h⟩ := Option.bind_eq_some_iff.1 h
    nomatch h
  | str literal =>
    rw [ofSource?, Option.map_eq_some_iff] at h
    obtain ⟨cs, -, hstr⟩ := h
    nomatch hstr
  | null | bool value =>
    rw [ofSource?] at h
    nomatch h

/-- The induction is on the depth: what is in an object is one level further down. -/
theorem distinct_of_ofSource? {depth : Nat} {source : Source} {document : Json}
    (h : ofSource? depth source = some document) : Distinct document := by
  induction depth using Nat.strongRecOn generalizing source document with
  | ind depth ih =>
    cases document with
    | obj members =>
      obtain ⟨below, written, entries, rfl, hentries, rfl⟩ := exists_of_ofSource?_obj h
      refine distinct_ofList fun entry hentry => ?_
      obtain ⟨inner, hinner⟩ := exists_of_mem_ofMembers? hentries hentry
      exact ih below (Nat.lt_succ_self below) hinner
    | null | bool | num | str | arr => exact distinct_of_not_isObj rfl

/-- What is read from a text has no doubled keys, however often a key comes in it. -/
theorem distinct_of_read? {text : String} {document : Json} (h : read? text = some document) : Distinct document := by
  obtain ⟨source, -, hsource⟩ := Option.bind_eq_some_iff.1 h
  exact distinct_of_ofSource? hsource

end Json

/-! ## Builders -/

namespace Ingest

theorem distinct_currencyDocument (c : Sheet.Currency) : (Builder.currencyDocument c).Distinct := by
  have hkeys : ["currency_id", "name_id", "description_id", "icon_image_set_id", "map_icon_image_set_id",
      "inventory_cap"].Nodup := by decide
  exact Json.distinct_of_flat hkeys (by simp [Json.isObj_ofOption Json.isObj_ofInt32, Json.isObj_ofOption Json.isObj_ofUInt32])

theorem distinct_experienceDocument (e : Sheet.Experience) : (Builder.experienceDocument e).Distinct := by
  have hkeys : ["experience_id", "award_type_id", "name_id", "xp", "notify_radius"].Nodup := by decide
  exact Json.distinct_of_flat hkeys (by simp [Json.isObj_ofOption fun _ => Json.isObj_ofDouble _])

theorem distinct_factionDocument (f : Sheet.Faction) : (Builder.factionDocument f).Distinct := by
  have hkeys : ["faction_id", "name_id", "short_name_id", "image_set_id", "hud_tint_rgb", "code_tag",
      "user_selectable"].Nodup := by decide
  exact Json.distinct_of_flat hkeys (by simp [Json.isObj_ofOption Json.isObj_ofInt32, Json.isObj_ofOption Json.isObj_ofUInt32])

theorem distinct_imageSetDocument (m : Sheet.ImageSetMapping) : (Builder.imageSetDocument m).Distinct := by
  have hkeys : ["image_set_id", "image_id", "image_type"].Nodup := by decide
  exact Json.distinct_of_flat hkeys (by simp)

/-- Documents that are made one of each record are of a kind. -/
theorem distinct_of_records {α : Type} {document : α → Json} (hdocument : ∀ record, (document record).Distinct)
    {before : α → α → Bool} {records : Except IngestError (List α)} {documents : List Json}
    (h : (records.map fun records => (stableSort before records).map document) = .ok documents) :
    ∀ document ∈ documents, document.Distinct := by
  obtain ⟨sorted, -, rfl⟩ := exists_of_map_ok h
  intro made hmade
  obtain ⟨record, -, rfl⟩ := List.mem_map.1 hmade
  exact hdocument record

/-- What the builders of ingestion make has no doubled keys, whatever the data are. -/
theorem distinct_of_build {builder : Builder} (hbuilder : builder ∈ Builder.all) {data : ClientData}
    {documents : List Json} (h : builder.build data = .ok documents) : ∀ document ∈ documents, document.Distinct := by
  rw [Builder.all, List.mem_cons, List.mem_cons, List.mem_cons, List.mem_singleton] at hbuilder
  rcases hbuilder with rfl | rfl | rfl | rfl
  · exact distinct_of_records distinct_currencyDocument h
  · exact distinct_of_records distinct_experienceDocument h
  · exact distinct_of_records distinct_factionDocument h
  · exact distinct_of_records distinct_imageSetDocument h

end Ingest

/-! ## The store -/

namespace Store

/-- A collection that is put into the store is found there, in the place of any of its name, and all others are as they were. -/
theorem find?_insert (store : Store) (name : String) (documents : List Json) :
    (store.insert name documents).find? = Function.update store.find? name (some documents) := by
  funext key
  show Members.get? key (insertSorted name documents store.collections) = _
  have hfind : store.find? = (Members.get? · store.collections) := rfl
  rw [hfind, Function.update_apply]
  induction store.collections with
  | nil => simp only [insertSorted, Members.get?, eq_comm]
  | cons first rest ih =>
    obtain ⟨other, kept⟩ := first
    rw [insertSorted]
    split
    · simp only [Members.get?, eq_comm]
    · rename_i heq
      have hname := Std.LawfulEqCmp.eq_of_compare heq
      grind [Members.get?]
    · rename_i hgt
      have hname : name ≠ other := fun h => by
        rw [h, compareText_self] at hgt
        cases hgt
      grind [Members.get?]

/-- A store without doubled keys stays so when documents without doubled keys are put into it. -/
theorem Distinct.insert {store : Store} (h : store.Distinct) {name : String} {documents : List Json}
    (hdocuments : ∀ document ∈ documents, document.Distinct) : (store.insert name documents).Distinct := by
  intro entry hentry document hdocument
  rcases mem_insertSorted hentry with rfl | hentry
  · exact hdocuments document hdocument
  · exact h entry hentry document hdocument

end Store

end SheetQuery
