import SheetQuery.Proofs.Json.Order
import SheetQuery.Proofs.Query.Rendering
import SheetQuery.Proofs.Sorting.Successive

/-!
# Several keys to sort by

Documents that have no floating-point number where they are sorted by are ordered by every key. Sorting them by several keys
is sorting them by each, the least significant first, and there is no other way to sort them by those keys
(`sort_successively`). A key of a field that has been named before decides nothing.
-/

namespace SheetQuery

namespace Json

/-- Whether this is a floating-point number. -/
def isFloat : Json → Bool
  | .num (.float _) => true
  | _ => false

/-- Nothing is blurred but by a floating-point number. -/
theorem not_blurred {a b c : Option Json} (h : b.any isFloat = false) : ¬ Blurred a b c := by
  intro hblurred
  unfold Blurred at hblurred
  split at hblurred
  · rename_i m n k
    cases n with
    | int i fits => cases m <;> exact hblurred
    | float x => nomatch h
  · exact hblurred

end Json

namespace Query.SortKey

open Json

/-! ## Comparisons -/

/-- Whether there is no floating-point number at the fields of some keys. -/
def Exact (keys : List SortKey) (document : Json) : Prop :=
  ∀ key ∈ keys, (document.lookup key.field).any isFloat = false

instance (keys : List SortKey) (document : Json) : Decidable (Exact keys document) :=
  inferInstanceAs (Decidable (∀ key ∈ keys, (document.lookup key.field).any isFloat = false))

theorem Exact.head {key : SortKey} {keys : List SortKey} {document : Json} (h : Exact (key :: keys) document) :
    Exact [key] document := by
  intro other hother
  rw [List.mem_singleton.1 hother]
  exact h key List.mem_cons_self

theorem Exact.tail {key : SortKey} {keys : List SortKey} {document : Json} (h : Exact (key :: keys) document) :
    Exact keys document :=
  fun other hother => h other (List.mem_cons_of_mem key hother)

/-- Comparing two documents by a key the other way round gives the opposite. -/
theorem compare_swap (key : SortKey) (a b : Json) : key.compare a b = (key.compare b a).swap := by
  rw [compare, compare, ← compareForSort_swap (a.lookup key.field)]
  split <;> simp

/-- Three documents that are in order by a key are in order from the first to the last, in either direction of the key. -/
theorem compare_isLE_trans {key : SortKey} {a b c : Json} (hb : (b.lookup key.field).any isFloat = false)
    (hab : (key.compare a b).isLE) (hbc : (key.compare b c).isLE) : (key.compare a c).isLE := by
  rw [compare] at hab hbc ⊢
  split
  · rename_i hdescending
    rw [if_pos hdescending, compareForSort_swap] at hab hbc
    rw [compareForSort_swap]
    exact (compareForSort_trans_iff hbc hab).2 (not_blurred hb)
  · rename_i hascending
    rw [if_neg hascending] at hab hbc
    exact (compareForSort_trans_iff hab hbc).2 (not_blurred hb)

instance (key : SortKey) : Std.OrientedCmp key.compare where
  eq_swap {a b} := compare_swap key a b

/-- A key orders the documents that have no floating-point number at its field. -/
theorem transCmp_compare {key : SortKey} {p : Json → Prop} (h : ∀ document, p document → Exact [key] document) :
    Std.TransCmp fun a b : Subtype p => key.compare a b where
  eq_swap {a b} := compare_swap key a b
  isLE_trans {_ b _} hab hbc := compare_isLE_trans (h b b.2 key List.mem_cons_self) hab hbc

theorem compareAll_singleton (key : SortKey) : compareAll [key] = key.compare := by
  funext a b
  rw [compareAll, compareAll, Ordering.then_eq]

theorem compareAll_append (keys others : List SortKey) (a b : Json) :
    compareAll (keys ++ others) a b = (compareAll keys a b).then (compareAll others a b) := by
  induction keys with
  | nil => rfl
  | cons key keys ih => rw [List.cons_append, compareAll, compareAll, ih, Ordering.then_assoc]

/-- Several keys order the documents that each of them orders. -/
theorem transCmp_compareAll {keys : List SortKey} {p : Json → Prop} (h : ∀ document, p document → Exact keys document) :
    Std.TransCmp fun a b : Subtype p => compareAll keys a b := by
  induction keys with
  | nil => exact { eq_swap := rfl, isLE_trans := fun _ _ => rfl }
  | cons key keys ih =>
    have hkey := transCmp_compare fun document hdocument => (h document hdocument).head
    have hkeys := ih fun document hdocument => (h document hdocument).tail
    exact inferInstanceAs (Std.TransCmp (compareLex (fun a b : Subtype p => key.compare a b) fun a b : Subtype p =>
      compareAll keys a b))

instance (keys : List SortKey) : Std.OrientedCmp (compareAll keys) where
  eq_swap {a b} := by
    induction keys with
    | nil => rfl
    | cons key keys ih => rw [compareAll, compareAll, compare_swap, ih, Ordering.swap_then]

/-! ## Sorting -/

/-- A list of documents is sorted by each of some keys in turn, the least significant first. -/
inductive SortedByEach (documents : List Json) : List SortKey → List Json → Prop where
  | none : SortedByEach documents [] documents
  | next {key : SortKey} {keys : List SortKey} {sorted resorted : List Json} (before : SortedByEach documents keys sorted)
      (step : StablySortedBy key.compare sorted resorted) : SortedByEach documents (key :: keys) resorted

variable {keys : List SortKey} {documents : List Json}

/-- What is sorted by each of some keys in turn is sorted by all of them. -/
theorem SortedByEach.stablySortedBy {sorted : List Json} (h : SortedByEach documents keys sorted) :
    StablySortedBy (compareAll keys) documents sorted := by
  induction h with
  | none => exact ⟨.refl documents, List.pairwise_of_forall fun _ _ => rfl, fun _ _ => rfl⟩
  | next _ step ih => exact ih.thenBy step

/-- Sorting by keys sorts the documents that the keys order. -/
theorem stablySortedBy_sort (h : ∀ document ∈ documents, Exact keys document) :
    StablySortedBy (compareAll keys) documents (sort keys documents) := by
  have htrans : Std.TransCmp fun a b : Subtype (Exact keys) => compareAll keys a b := transCmp_compareAll fun _ => id
  exact stablySortedBy_stableSort (compareAll keys) h

/-- Sorting by one key after another sorts by each in turn. -/
theorem sortedByEach_foldr (h : ∀ document ∈ documents, Exact keys document) :
    SortedByEach documents keys (keys.foldr (fun key sorted => sort [key] sorted) documents) := by
  induction keys with
  | nil => exact .none
  | cons key keys ih =>
    have hbefore := ih fun document hdocument => (h document hdocument).tail
    have hstep := stablySortedBy_sort fun document hdocument =>
      (h document (hbefore.stablySortedBy.perm.mem_iff.1 hdocument)).head
    rw [compareAll_singleton] at hstep
    exact hbefore.next hstep

/-- A key of a field that has been named before decides nothing. -/
theorem compareAll_redundant {before after : List SortKey} {key : SortKey} (h : key.field ∈ before.map SortKey.field) :
    compareAll (before ++ key :: after) = compareAll (before ++ after) := by
  funext a b
  rw [compareAll_append, compareAll_append, compareAll]
  cases hbefore : compareAll before a b with
  | eq =>
    have hkey : key.compare a b = .eq := by
      induction before with
      | nil => nomatch h
      | cons first before ih =>
        rw [compareAll, Ordering.then_eq_eq] at hbefore
        rcases List.mem_cons.1 h with hfield | h
        · rw [compare_eq_eq_iff, hfield, ← compare_eq_eq_iff]
          exact hbefore.1
        · exact ih h hbefore.2
    rw [hkey]
    rfl
  | _ => rfl

/-- Sorting by several keys is sorting by each of them, the least significant first: documents without floating-point numbers
at the fields of the keys can be sorted by the keys, all at once or each in turn, in one way only. To sort them again changes
nothing, and neither does to leave out a key of a field that has been named before. -/
theorem sort_successively (h : ∀ document ∈ documents, Exact keys document) :
    (∀ sorted, StablySortedBy (compareAll keys) documents sorted ↔ sorted = sort keys documents) ∧
    (∀ sorted, SortedByEach documents keys sorted ↔ sorted = sort keys documents) ∧
    sort keys documents = keys.foldr (fun key sorted => sort [key] sorted) documents ∧
    sort keys (sort keys documents) = sort keys documents ∧
    ∀ before key after, keys = before ++ key :: after → key.field ∈ before.map SortKey.field →
      sort (before ++ after) documents = sort keys documents := by
  have hsorted := stablySortedBy_sort h
  have heach := sortedByEach_foldr h
  have hfoldr : keys.foldr (fun key sorted => sort [key] sorted) documents = sort keys documents :=
    heach.stablySortedBy.unique hsorted
  refine ⟨fun sorted => ?_, fun sorted => ?_, hfoldr.symm, ?_, ?_⟩
  · constructor
    · intro hother
      exact hother.unique hsorted
    · rintro rfl
      exact hsorted
  · constructor
    · intro hother
      exact hother.stablySortedBy.unique hsorted
    · rintro rfl
      exact hfoldr ▸ heach
  · have hagain := stablySortedBy_sort fun document hdocument => h document (hsorted.perm.mem_iff.1 hdocument)
    exact hagain.unique hsorted.again
  · rintro before key after rfl hfield
    rw [sort, sort, compareAll_redundant hfield]

/-- Four items, two of them alike and one without a number. -/
def items : List Json :=
  [.obj [("id", .str "a"), ("item_id", .ofNat 1), ("category", .str "z")],
    .obj [("id", .str "b"), ("item_id", .ofNat 2), ("category", .str "x")],
    .obj [("id", .str "c"), ("category", .str "x")],
    .obj [("id", .str "d"), ("item_id", .ofNat 2), ("category", .str "x")]]

/-- The items from the greatest number to the least, the alike ones in their order, the one without a number last. The second
key of the number decides nothing. -/
theorem sort_successively_items :
    (∀ document ∈ items, Exact [⟨"item_id", true⟩, ⟨"category", false⟩, ⟨"item_id", false⟩] document) ∧
      SortedByEach items [⟨"item_id", true⟩, ⟨"category", false⟩, ⟨"item_id", false⟩]
        (sort [⟨"item_id", true⟩, ⟨"category", false⟩] items) ∧
      (sort [⟨"item_id", true⟩, ⟨"category", false⟩] items).filterMap (fun item => (item.get? "id").bind str?) =
        ["b", "d", "a", "c"] := by
  have hexact : ∀ document ∈ items, Exact [⟨"item_id", true⟩, ⟨"category", false⟩, ⟨"item_id", false⟩] document := by
    decide +kernel
  obtain ⟨-, heach, -, -, hredundant⟩ := sort_successively hexact
  refine ⟨hexact, (heach _).2 ?_, by decide +kernel⟩
  exact hredundant [⟨"item_id", true⟩, ⟨"category", false⟩] ⟨"item_id", false⟩ [] rfl (by decide)

end Query.SortKey

end SheetQuery
