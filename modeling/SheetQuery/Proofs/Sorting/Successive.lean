import SheetQuery.Proofs.Sorting

/-!
# Sorting by one comparison after another

A comparison leaves a list one way to be sorted: in ascending order, with what is equal in the order in which it was
(`StablySortedBy.unique`). A list that is sorted by one comparison and then by another is therefore sorted by the second, and
by the first where the second finds two items equal (`StablySortedBy.thenBy`). Only for a sort to come to such a list does the
comparison have to be an order, and that only on what is sorted (`stablySortedBy_stableSort`).
-/

namespace SheetQuery

variable {α : Type} {cmp : α → α → Ordering}

/-- A list is sorted by a comparison: it has the items of another in ascending order, those that are equal to one of them in
the order that they have there. -/
structure StablySortedBy (cmp : α → α → Ordering) (items sorted : List α) : Prop where
  perm : sorted.Perm items
  ascending : sorted.Pairwise fun a b => (cmp a b).isLE
  stable : ∀ a ∈ items, (sorted.filter fun b => cmp a b == .eq) = items.filter fun b => cmp a b == .eq

namespace StablySortedBy

variable {items middle sorted : List α}

/-- What is sorted is sorted once more by leaving it as it is. -/
theorem again (h : StablySortedBy cmp items sorted) : StablySortedBy cmp sorted sorted where
  perm := .refl sorted
  ascending := h.ascending
  stable _ _ := rfl

/-- Items that are equal to the more significant of two comparisons are kept in the order that the other has put them in. -/
theorem isLE_of_sublist {cmp' : α → α → Ordering} [Std.ReflCmp cmp'] (h : StablySortedBy cmp items middle)
    (h' : StablySortedBy cmp' middle sorted) {a b : α} (hab : [a, b].Sublist sorted) (heq : cmp' a b = .eq) :
    (cmp a b).isLE := by
  have hself : cmp' a a = .eq := Std.ReflCmp.compare_self
  have hmem : a ∈ middle := h'.perm.mem_iff.1 (hab.subset List.mem_cons_self)
  have hpair : [a, b].filter (fun c => cmp' a c == .eq) = [a, b] := by simp [hself, heq]
  have hkept := hab.filter fun c => cmp' a c == .eq
  rw [hpair, h'.stable a hmem] at hkept
  exact List.pairwise_iff_forall_sublist.1 h.ascending (hkept.trans List.filter_sublist)

/-- What has been sorted by one comparison, then by another, is sorted by the two, the second being the more significant. -/
theorem thenBy {cmp' : α → α → Ordering} [Std.ReflCmp cmp'] (h : StablySortedBy cmp items middle)
    (h' : StablySortedBy cmp' middle sorted) : StablySortedBy (compareLex cmp' cmp) items sorted where
  perm := h'.perm.trans h.perm
  ascending := by
    rw [List.pairwise_iff_forall_sublist]
    intro a b hab
    have hle : (cmp' a b).isLE := List.pairwise_iff_forall_sublist.1 h'.ascending hab
    rw [compareLex, Ordering.isLE_then_iff_or]
    rcases Ordering.isLE_iff_eq_lt_or_eq_eq.1 hle with hlt | heq
    · exact .inl hlt
    · exact .inr ⟨heq, h.isLE_of_sublist h' hab heq⟩
  stable := by
    intro a ha
    have hmiddle : a ∈ middle := h.perm.mem_iff.2 ha
    have hboth : ∀ b, (compareLex cmp' cmp a b == .eq) = ((cmp a b == .eq) && (cmp' a b == .eq)) := by
      intro b
      rw [compareLex]
      cases cmp' a b <;> simp
    have hsplit : ∀ xs : List α, (xs.filter fun b => compareLex cmp' cmp a b == .eq) =
        (xs.filter fun b => cmp' a b == .eq).filter fun b => cmp a b == .eq := by
      intro xs
      simp only [hboth, List.filter_filter]
    calc (sorted.filter fun b => compareLex cmp' cmp a b == .eq)
        = (middle.filter fun b => cmp' a b == .eq).filter fun b => cmp a b == .eq := by rw [hsplit, h'.stable a hmiddle]
      _ = (middle.filter fun b => cmp a b == .eq).filter fun b => cmp' a b == .eq := by
        simp only [List.filter_filter, Bool.and_comm]
      _ = (items.filter fun b => cmp' a b == .eq).filter fun b => cmp a b == .eq := by
        simp only [h.stable a ha, List.filter_filter, Bool.and_comm]
      _ = items.filter fun b => compareLex cmp' cmp a b == .eq := (hsplit items).symm

/-- The first items of two lists in ascending order that have the same items are equal. -/
theorem eq_of_heads [Std.OrientedCmp cmp] {a b : α} {sorted other : List α} (hperm : (a :: sorted).Perm (b :: other))
    (ha : ∀ c ∈ sorted, (cmp a c).isLE) (hb : ∀ c ∈ other, (cmp b c).isLE) : cmp a b = .eq := by
  rcases List.mem_cons.1 (hperm.mem_iff.1 List.mem_cons_self) with rfl | hmem
  · exact Std.ReflCmp.compare_self
  · rcases List.mem_cons.1 (hperm.mem_iff.2 List.mem_cons_self) with rfl | hmem'
    · exact Std.ReflCmp.compare_self
    · have hab := ha b hmem'
      have hba := hb a hmem
      rw [@Std.OrientedCmp.eq_swap _ cmp _ b a, Ordering.isLE_swap] at hba
      exact Ordering.eq_eq_iff_isLE_and_isGE.2 ⟨hab, hba⟩

/-- Two lists in ascending order are one if they have the same items, and of each kind the same items in the same order. -/
theorem eq_of_ascending [Std.OrientedCmp cmp] {sorted other : List α} (hperm : sorted.Perm other)
    (hsorted : sorted.Pairwise fun a b => (cmp a b).isLE) (hother : other.Pairwise fun a b => (cmp a b).isLE)
    (hstable : ∀ a ∈ sorted, (sorted.filter fun b => cmp a b == .eq) = other.filter fun b => cmp a b == .eq) :
    sorted = other := by
  induction sorted generalizing other with
  | nil => exact (List.nil_perm.1 hperm).symm
  | cons a sorted ih =>
    cases other with
    | nil => exact List.perm_nil.1 hperm
    | cons b other =>
      obtain ⟨ha, hsorted⟩ := List.pairwise_cons.1 hsorted
      obtain ⟨hb, htail⟩ := List.pairwise_cons.1 hother
      have hself : cmp a a = .eq := Std.ReflCmp.compare_self
      have hheads := hstable a List.mem_cons_self
      rw [List.filter_cons_of_pos (by simp [hself]), List.filter_cons_of_pos (by simp [eq_of_heads hperm ha hb])] at hheads
      obtain rfl := (List.cons.inj hheads).1
      refine congrArg (a :: ·) (ih hperm.cons_inv hsorted htail fun c hc => ?_)
      have hrest := hstable c (List.mem_cons_of_mem a hc)
      rw [List.filter_cons, List.filter_cons] at hrest
      split at hrest
      · exact (List.cons.inj hrest).2
      · exact hrest

/-- There is only one way to sort a list by a comparison. -/
theorem unique [Std.OrientedCmp cmp] {other : List α} (h : StablySortedBy cmp items sorted)
    (h' : StablySortedBy cmp items other) : sorted = other := by
  refine eq_of_ascending (h.perm.trans h'.perm.symm) h.ascending h'.ascending fun a ha => ?_
  have hitem := h.perm.mem_iff.1 ha
  rw [h.stable a hitem, h'.stable a hitem]

/-- What compares as something else does is sorted as that is. -/
theorem map {β : Type} {cmp' : β → β → Ordering} {f : β → α} (hcmp : ∀ a b, cmp (f a) (f b) = cmp' a b)
    {items sorted : List β} (h : StablySortedBy cmp' items sorted) :
    StablySortedBy cmp (items.map f) (sorted.map f) where
  perm := h.perm.map f
  ascending := by
    rw [List.pairwise_map]
    simpa only [hcmp] using h.ascending
  stable := by
    intro a ha
    obtain ⟨b, hb, rfl⟩ := List.mem_map.1 ha
    have hequal : (fun c => cmp (f b) c == .eq) ∘ f = fun c => cmp' b c == .eq := by
      funext c
      rw [Function.comp, hcmp]
    rw [List.filter_map, List.filter_map, hequal, h.stable b hb]

end StablySortedBy

/-! ## Sorts -/

theorem isLT_eq_false_iff [Std.OrientedCmp cmp] {a b : α} : (cmp a b).isLT = false ↔ (cmp b a).isLE = true := by
  rw [@Std.OrientedCmp.eq_swap _ cmp _ a b]
  cases cmp b a <;> decide

/-- A comparison that is an order says what comes before what. -/
theorem isOrder_isLT (cmp : α → α → Ordering) [Std.TransCmp cmp] : IsOrder fun a b => (cmp a b).isLT where
  asymm a b hab := by
    rw [isLT_eq_false_iff]
    exact Ordering.isLE_of_eq_lt (Ordering.isLT_iff_eq_lt.1 hab)
  trans a b c hab hbc := by
    rw [isLT_eq_false_iff] at hab hbc ⊢
    exact Std.TransCmp.isLE_trans hbc hab

/-- Sorting by an order sorts by it. -/
theorem stablySortedBy_of_transCmp (cmp : α → α → Ordering) [Std.TransCmp cmp] (items : List α) :
    StablySortedBy cmp items (stableSort (fun a b => (cmp a b).isLT) items) where
  perm := stableSort_perm _ items
  ascending := by
    have h := (isOrder_isLT cmp).pairwise_stableSort items
    simpa only [isLT_eq_false_iff] using h
  stable a _ := by
    refine filter_stableSort (fun b c hb hc => ?_) items
    rw [beq_iff_eq] at hb hc
    have hcb : cmp c b = .eq := (Std.TransCmp.congr_left hc).symm.trans hb
    rw [isLT_eq_false_iff, hcb]
    rfl

/-- Sorting by a comparison sorts by it if it is an order on what is sorted. -/
theorem stablySortedBy_stableSort (cmp : α → α → Ordering) {p : α → Prop}
    [Std.TransCmp fun a b : Subtype p => cmp a b] {items : List α} (h : ∀ a ∈ items, p a) :
    StablySortedBy cmp items (stableSort (fun a b => (cmp a b).isLT) items) := by
  have hitems : (items.attachWith p h).map Subtype.val = items := List.attachWith_map_subtype_val h
  have hsorted := (stablySortedBy_of_transCmp (fun a b : Subtype p => cmp a b) (items.attachWith p h)).map
    (f := Subtype.val) fun _ _ => rfl
  have hsort : stableSort (fun a b => (cmp a b).isLT) ((items.attachWith p h).map Subtype.val) =
      (stableSort (fun a b : Subtype p => (cmp a b).isLT) (items.attachWith p h)).map Subtype.val :=
    stableSort_map fun _ _ _ _ => rfl
  rwa [← hsort, hitems] at hsorted

end SheetQuery
