import Mathlib.Data.List.Sort
import SheetQuery.Sorting

/-!
# Stability and order

Sorting never turns items round of which neither comes before the other, whatever it is that it sorts by. If that is an order
up to ties, nothing is left behind what comes before it. Items that are sorted by a key are therefore in ascending order of
the key, and those of one key are in the order they were in (`stablySorted_stableSort`).
-/

namespace SheetQuery

variable {α : Type} {less : α → α → Bool}

/-! ## Insertion -/

/-- What does not come before something else may stand behind it in a list that is sorted from the last to the first. -/
def Follows (less : α → α → Bool) (a b : α) : Prop :=
  less a b = false

instance (less : α → α → Bool) : DecidableRel (Follows less) := fun a b => inferInstanceAs (Decidable (less a b = false))

theorem insertFromLast_eq_orderedInsert (less : α → α → Bool) (item : α) (sorted : List α) :
    insertFromLast less item sorted = sorted.orderedInsert (Follows less) item := by
  induction sorted with
  | nil => rfl
  | cons last rest ih =>
    rw [insertFromLast, ih]
    cases hless : less item last with
    | true => exact (List.orderedInsert_of_not_le _ rest (by simp [Follows, hless])).symm
    | false => exact (List.orderedInsert_cons_of_le _ rest hless).symm

/-- Sorting is sorting by insertion from the last item to the first. -/
theorem stableSort_eq_insertionSort (less : α → α → Bool) (items : List α) :
    stableSort less items = (items.reverse.insertionSort (Follows less)).reverse := by
  have hinsert : (fun sorted item => insertFromLast less item sorted) =
      fun sorted item => sorted.orderedInsert (Follows less) item := by
    funext sorted item
    exact insertFromLast_eq_orderedInsert less item sorted
  rw [stableSort, insertAll, hinsert, List.insertionSort, List.foldr_reverse]

/-- Sorting neither loses nor repeats an item. -/
theorem stableSort_perm (less : α → α → Bool) (items : List α) : (stableSort less items).Perm items := by
  rw [stableSort_eq_insertionSort]
  exact (List.reverse_perm _).trans ((List.perm_insertionSort _ _).trans (List.reverse_perm items))

/-- Items that still compare as they did when they are changed are sorted as they were. -/
theorem stableSort_map {β : Type} {less' : β → β → Bool} {f : α → β} {items : List α}
    (h : ∀ a ∈ items, ∀ b ∈ items, less' (f a) (f b) = less a b) :
    stableSort less' (items.map f) = (stableSort less items).map f := by
  rw [stableSort_eq_insertionSort, stableSort_eq_insertionSort, List.map_reverse, ← List.map_reverse]
  refine congrArg List.reverse (List.map_insertionSort _ _ f _ fun a ha b hb => ?_).symm
  rw [Follows, Follows, h a (List.mem_reverse.1 ha) b (List.mem_reverse.1 hb)]

/-! ## Stability -/

/-- Sorting keeps the items of a kind in their order, if none of them comes before another. -/
theorem filter_stableSort {p : α → Bool} (h : ∀ a b, p a → p b → less a b = false) (items : List α) :
    (stableSort less items).filter p = items.filter p := by
  have hties : (items.reverse.filter p).Pairwise (Follows less) :=
    List.pairwise_filter.2 (List.pairwise_of_forall fun a b ha hb => h a b ha hb)
  have hkept := (List.sublist_insertionSort hties List.filter_sublist).filter p
  rw [List.filter_filter, funext fun a => Bool.and_self (p a)] at hkept
  have hlength := ((List.perm_insertionSort (Follows less) items.reverse).filter p).length_eq
  rw [stableSort_eq_insertionSort, List.filter_reverse, ← hkept.eq_of_length hlength.symm, List.filter_reverse,
    List.reverse_reverse]

/-- Items of which none comes before another stay as they are. -/
theorem stableSort_of_ties (h : ∀ a b, less a b = false) (items : List α) : stableSort less items = items := by
  have hall := filter_stableSort (p := fun _ => true) (fun a b _ _ => h a b) items
  rwa [List.filter_eq_self.2 fun _ _ => rfl, List.filter_eq_self.2 fun _ _ => rfl] at hall

/-! ## Order -/

/-- A relation is an order up to ties: nothing comes before what comes before it, and what ties with the items between
two others. -/
structure IsOrder (less : α → α → Bool) : Prop where
  asymm : ∀ a b, less a b = true → less b a = false
  trans : ∀ a b c, less a b = false → less b c = false → less a c = false

/-- Sorting by an order leaves no item behind one that it comes before. -/
theorem IsOrder.pairwise_stableSort (order : IsOrder less) (items : List α) :
    (stableSort less items).Pairwise fun a b => less b a = false := by
  have : Std.Total (Follows less) := ⟨fun a b => (eq_or_ne (less a b) false).imp_right fun h => order.asymm a b (by simpa using h)⟩
  have : IsTrans α (Follows less) := ⟨order.trans⟩
  rw [stableSort_eq_insertionSort, List.pairwise_reverse]
  exact List.pairwise_insertionSort (Follows less) items.reverse

/-! ## Keys -/

variable {κ : Type} [LE κ] [DecidableEq κ] {key : α → κ}

/-- A list is sorted by a key: it has the items of another in ascending order, those of one key in the order that they have
there. -/
structure StablySorted (key : α → κ) (items sorted : List α) : Prop where
  perm : sorted.Perm items
  ascending : sorted.Pairwise fun a b => key a ≤ key b
  stable : ∀ k, (sorted.filter fun item => key item = k) = items.filter fun item => key item = k

/-- What is sorted by a key stays so when items are left out. -/
theorem StablySorted.filter {items sorted : List α} (h : StablySorted key items sorted) (p : α → Bool) :
    StablySorted key (items.filter p) (sorted.filter p) where
  perm := h.perm.filter p
  ascending := h.ascending.filter p
  stable k := by
    have hcomm : ∀ xs : List α, (xs.filter p).filter (fun item => key item = k) =
        (xs.filter fun item => key item = k).filter p := by
      intro xs
      simp only [List.filter_filter, Bool.and_comm]
    rw [hcomm, hcomm, h.stable k]

variable [LT κ] [DecidableLT κ] [Std.IsLinearOrder κ] [Std.LawfulOrderLT κ]

omit [DecidableEq κ] in
/-- Comparing keys is an order up to ties. -/
theorem isOrder_key (key : α → κ) : IsOrder fun a b => decide (key a < key b) where
  asymm a b h := by
    rw [decide_eq_true_iff] at h
    rw [decide_eq_false_iff_not, Std.not_lt]
    exact Std.le_of_lt h
  trans a b c hab hbc := by
    rw [decide_eq_false_iff_not, Std.not_lt] at hab hbc ⊢
    exact Std.le_trans hbc hab

/-- Sorting by a comparison of keys sorts by the key. -/
theorem stablySorted_stableSort (key : α → κ) (items : List α) :
    StablySorted key items (stableSort (fun a b => key a < key b) items) where
  perm := stableSort_perm _ items
  ascending := by
    have h := (isOrder_key key).pairwise_stableSort items
    simpa only [decide_eq_false_iff_not, Std.not_lt] using h
  stable k := by
    refine filter_stableSort (fun a b ha hb => ?_) items
    rw [decide_eq_true_iff] at ha hb
    rw [ha, hb, decide_eq_false_iff_not, Std.not_lt]
    exact Std.le_refl k

end SheetQuery
