import Mathlib.Data.List.TakeWhile
import SheetQuery.Text.Blank

/-!
# Texts that are trimmed

What is taken off at the ends of a list are the elements there that satisfy a condition. So a list stays as it is exactly when
neither its first element nor its last one does, and two texts that are trimmed make a trimmed text together. What is left is
the same whatever such elements are put at the ends (`dropEnds_append_of_forall`).
-/

namespace SheetQuery.Text

variable {α : Type} {p : α → Bool}

/-- An element is taken off at the end if all behind it are. -/
theorem dropEnd_cons (x : α) (xs : List α) :
    dropEnd p (x :: xs) = if (dropEnd p xs).isEmpty && p x then [] else x :: dropEnd p xs :=
  rfl

/-- Nothing is added at the end of a list. -/
theorem dropEnd_sublist (xs : List α) : (dropEnd p xs).Sublist xs := by
  induction xs with
  | nil => exact .slnil
  | cons x xs ih =>
    rw [dropEnd_cons]
    split
    · exact List.nil_sublist _
    · exact ih.cons_cons x

/-- Nothing is added at the ends of a list. -/
theorem dropEnds_sublist (xs : List α) : (dropEnds p xs).Sublist xs :=
  (dropEnd_sublist _).trans (List.dropWhile_sublist p)

/-- Nothing is taken off at the end of a list exactly when its last element does not satisfy the condition. -/
theorem dropEnd_eq_self_iff {xs : List α} : dropEnd p xs = xs ↔ ∀ x ∈ xs.getLast?, p x = false := by
  induction xs with
  | nil => exact ⟨fun _ _ h => (nomatch h), fun _ => rfl⟩
  | cons x xs ih =>
    cases xs with
    | nil => by_cases hx : p x <;> simp [dropEnd, hx]
    | cons next xs =>
      rw [List.getLast?_cons_cons, ← ih, dropEnd_cons]
      constructor
      · intro h
        split at h
        · nomatch h
        · exact (List.cons.inj h).2
      · intro h
        rw [h]
        simp

/-- Nothing is taken off at the ends of a list exactly when neither its first nor its last element satisfies the condition. -/
theorem dropEnds_eq_self_iff {xs : List α} :
    dropEnds p xs = xs ↔ (∀ x ∈ xs.head?, p x = false) ∧ ∀ x ∈ xs.getLast?, p x = false := by
  rw [dropEnds, ← dropEnd_eq_self_iff]
  cases xs with
  | nil => simp
  | cons x xs =>
    by_cases hx : p x
    · have hshorter : dropEnd p (xs.dropWhile p) ≠ x :: xs := by
        intro h
        have hsublist : (dropEnd p (xs.dropWhile p)).Sublist xs := dropEnds_sublist xs
        rw [h] at hsublist
        exact absurd hsublist.length_le (Nat.not_succ_le_self _)
      simp [hx, hshorter]
    · simp [hx]

/-- Everything is taken off exactly when all elements satisfy the condition. -/
theorem dropEnd_eq_nil_iff {xs : List α} : dropEnd p xs = [] ↔ ∀ x ∈ xs, p x = true := by
  induction xs with
  | nil => simp [dropEnd]
  | cons x xs ih =>
    rw [dropEnd_cons, List.forall_mem_cons, ← ih]
    by_cases hxs : dropEnd p xs = [] <;> simp [hxs]

/-- What all satisfies the condition is taken off at the end of a list. -/
theorem dropEnd_append_of_forall (xs : List α) {ys : List α} (h : ∀ y ∈ ys, p y = true) :
    dropEnd p (xs ++ ys) = dropEnd p xs := by
  rw [dropEnd, List.foldr_append, ← dropEnd, dropEnd_eq_nil_iff.2 h, dropEnd]

/-- What all satisfies the condition is taken off at both ends of a list. -/
theorem dropEnds_append_of_forall {before after : List α} (hbefore : ∀ x ∈ before, p x = true)
    (hafter : ∀ x ∈ after, p x = true) (xs : List α) : dropEnds p (before ++ xs ++ after) = dropEnds p xs := by
  rw [List.append_assoc, dropEnds, dropEnds, List.dropWhile_append_of_pos hbefore, List.dropWhile_append]
  split
  · rename_i hempty
    rw [List.isEmpty_iff.1 hempty, List.dropWhile_eq_nil_iff.2 hafter]
  · exact dropEnd_append_of_forall _ hafter

/-- A list is what is left of it at its end and elements that all satisfy the condition. -/
theorem exists_append_dropEnd (xs : List α) : ∃ after, (∀ x ∈ after, p x = true) ∧ xs = dropEnd p xs ++ after := by
  induction xs with
  | nil => exact ⟨[], nofun, rfl⟩
  | cons x xs ih =>
    obtain ⟨after, hafter, hxs⟩ := ih
    rw [dropEnd_cons]
    split
    · rename_i h
      rw [Bool.and_eq_true, List.isEmpty_iff] at h
      rw [h.1, List.nil_append] at hxs
      subst hxs
      exact ⟨x :: xs, List.forall_mem_cons.2 ⟨h.2, hafter⟩, rfl⟩
    · exact ⟨after, hafter, congrArg (x :: ·) hxs⟩

/-- A list is what is left of it between elements that all satisfy the condition. -/
theorem exists_append_dropEnds (xs : List α) : ∃ before after, (∀ x ∈ before, p x = true) ∧ (∀ x ∈ after, p x = true) ∧
    xs = before ++ dropEnds p xs ++ after := by
  obtain ⟨after, hafter, hrest⟩ := exists_append_dropEnd (p := p) (xs.dropWhile p)
  refine ⟨xs.takeWhile p, after, fun x hx => List.mem_takeWhile_imp hx, hafter, ?_⟩
  rw [dropEnds, List.append_assoc, ← hrest, List.takeWhile_append_dropWhile]

/-- The elements that do not satisfy the condition are all left. -/
theorem filter_dropEnds (xs : List α) : ((dropEnds p xs).filter fun x => !p x) = xs.filter fun x => !p x := by
  obtain ⟨before, after, hbefore, hafter, hxs⟩ := exists_append_dropEnds (p := p) xs
  have hnone : ∀ {ys : List α}, (∀ y ∈ ys, p y = true) → (ys.filter fun x => !p x) = [] := by
    intro ys h
    rw [List.filter_eq_nil_iff]
    intro y hy
    simp [h y hy]
  have hfilter := congrArg (List.filter fun x => !p x) hxs
  rw [List.filter_append, List.filter_append, hnone hbefore, hnone hafter, List.nil_append, List.append_nil] at hfilter
  exact hfilter.symm

/-- Less is left of fewer elements when they are taken off at the start. -/
theorem dropWhile_sublist_dropWhile {xs ys : List α} (h : xs.Sublist ys) : (xs.dropWhile p).Sublist (ys.dropWhile p) := by
  induction h with
  | slnil => exact .slnil
  | @cons xs ys y h ih =>
    rw [List.dropWhile_cons]
    split
    · exact ih
    · exact (List.dropWhile_sublist p).trans (h.cons y)
  | @cons_cons xs ys x h ih =>
    rw [List.dropWhile_cons, List.dropWhile_cons]
    split
    · exact ih
    · exact h.cons_cons x

/-- Less is left of fewer elements when they are taken off at the end. -/
theorem dropEnd_sublist_dropEnd {xs ys : List α} (h : xs.Sublist ys) : (dropEnd p xs).Sublist (dropEnd p ys) := by
  induction h with
  | slnil => exact .slnil
  | @cons xs ys y h ih =>
    rw [dropEnd_cons y]
    split
    · rename_i hy
      rw [Bool.and_eq_true, List.isEmpty_iff] at hy
      rw [hy.1] at ih
      exact ih
    · exact ih.cons y
  | @cons_cons xs ys x h ih =>
    rw [dropEnd_cons x xs, dropEnd_cons x ys]
    split
    · exact List.nil_sublist _
    · rename_i hx
      -- Where the element stays in the shorter list something stays behind it or it does not satisfy the condition, so it stays.
      rw [if_neg]
      · exact ih.cons_cons x
      · intro hy
        rw [Bool.and_eq_true, List.isEmpty_iff] at hx hy
        rw [hy.1, List.sublist_nil] at ih
        exact hx ⟨ih, hy.2⟩

/-- Less is left of fewer elements. -/
theorem dropEnds_sublist_dropEnds {xs ys : List α} (h : xs.Sublist ys) : (dropEnds p xs).Sublist (dropEnds p ys) :=
  dropEnd_sublist_dropEnd (dropWhile_sublist_dropWhile h)

/-- What is left of a list stays. -/
theorem dropEnds_dropEnds (xs : List α) : dropEnds p (dropEnds p xs) = dropEnds p xs := by
  obtain ⟨before, after, hbefore, hafter, hxs⟩ := exists_append_dropEnds (p := p) xs
  have hdrop := congrArg (dropEnds p) hxs
  rw [dropEnds_append_of_forall hbefore hafter] at hdrop
  exact hdrop.symm

/-- Two lists of which all is left make such a list together. -/
theorem dropEnds_append_eq_self {xs ys : List α} (hxs : dropEnds p xs = xs) (hys : dropEnds p ys = ys) :
    dropEnds p (xs ++ ys) = xs ++ ys := by
  rw [dropEnds_eq_self_iff] at hxs hys ⊢
  constructor
  · intro x hx
    rw [List.head?_append, Option.mem_def, Option.or_eq_some_iff] at hx
    rcases hx with hx | ⟨-, hx⟩
    · exact hxs.1 x hx
    · exact hys.1 x hx
  · intro x hx
    rw [List.getLast?_append, Option.mem_def, Option.or_eq_some_iff] at hx
    rcases hx with hx | ⟨-, hx⟩
    · exact hys.2 x hx
    · exact hxs.2 x hx

/-- All is left of elements that do not satisfy the condition. -/
theorem dropEnds_of_forall {xs : List α} (h : ∀ x ∈ xs, p x = false) : dropEnds p xs = xs :=
  dropEnds_eq_self_iff.2 ⟨fun x hx => h x (List.mem_of_head? hx), fun x hx => h x (List.mem_of_getLast? hx)⟩

section Parts

variable {β : Type} {q : β → Bool} {f : α → List β}

/-- Lists in a row of which the first and the last are left are all left. -/
theorem dropEnds_flatMap_eq_self (hf : ∀ x, ∀ y ∈ f x, q y = p x) (hne : ∀ x, f x ≠ []) {xs : List α}
    (h : dropEnds p xs = xs) : dropEnds q (xs.flatMap f) = xs.flatMap f := by
  obtain ⟨hhead, hlast⟩ := dropEnds_eq_self_iff.1 h
  refine dropEnds_eq_self_iff.2 ⟨fun y hy => ?_, fun y hy => ?_⟩
  · cases xs with
    | nil => nomatch hy
    | cons x xs =>
      rw [List.flatMap_cons, List.head?_append, Option.or_of_isSome (List.isSome_head?.2 (hne x))] at hy
      rw [hf x y (List.mem_of_head? hy)]
      exact hhead x rfl
  · rcases List.eq_nil_or_concat xs with rfl | ⟨rest, x, rfl⟩
    · nomatch hy
    · rw [List.concat_eq_append, List.flatMap_append, List.flatMap_singleton, List.getLast?_append,
        Option.or_of_isSome (List.getLast?_isSome.2 (hne x))] at hy
      rw [hf x y (List.mem_of_getLast? hy)]
      exact hlast x (by rw [List.concat_eq_append, List.getLast?_concat]; rfl)

/-- Of lists in a row, each of one element and as a whole as that element is, those of the elements that are left are left. -/
theorem dropEnds_flatMap (hf : ∀ x, ∀ y ∈ f x, q y = p x) (hne : ∀ x, f x ≠ []) (xs : List α) :
    dropEnds q (xs.flatMap f) = (dropEnds p xs).flatMap f := by
  obtain ⟨before, after, hbefore, hafter, hxs⟩ := exists_append_dropEnds (p := p) xs
  have hall : ∀ {ys : List α}, (∀ x ∈ ys, p x = true) → ∀ y ∈ ys.flatMap f, q y = true := by
    intro ys h y hy
    obtain ⟨x, hx, hyx⟩ := List.mem_flatMap.1 hy
    rw [hf x y hyx, h x hx]
  have hdrop := congrArg (fun ys => dropEnds q (ys.flatMap f)) hxs
  simp only [List.flatMap_append] at hdrop
  rw [hdrop, dropEnds_append_of_forall (hall hbefore) (hall hafter),
    dropEnds_flatMap_eq_self hf hne (dropEnds_dropEnds xs)]

/-- Taking elements off the two ends commutes with a change that the condition does not see. -/
theorem dropEnds_map {f : α → α} (hf : ∀ x, p (f x) = p x) (xs : List α) :
    dropEnds p (xs.map f) = (dropEnds p xs).map f := by
  rw [List.map_eq_flatMap, List.map_eq_flatMap]
  refine dropEnds_flatMap (fun x y hy => ?_) (fun x => List.cons_ne_nil _ _) xs
  rw [List.mem_singleton.1 hy, hf]

end Parts

/-- A text without white space is trimmed. -/
theorem trim_of_forall {text : String} (h : ∀ c ∈ text.toList, isBlank c = false) : trim text = text := by
  rw [trim, dropEnds_of_forall h, String.ofList_toList]

/-- No digit is white space. -/
theorem isBlank_of_isDigit {c : Char} (h : c.isDigit = true) : isBlank c = false := by
  have hbounds : 48 ≤ c.toNat ∧ c.toNat ≤ 57 := by
    simpa [Char.isDigit, UInt32.le_iff_toNat_le] using h
  simp only [isBlank, Bool.or_eq_false_iff, Bool.and_eq_false_iff, decide_eq_false_iff_not, beq_eq_false_iff_ne]
  omega

/-- Two trimmed texts make a trimmed text. -/
theorem trim_append {first second : String} (hfirst : trim first = first) (hsecond : trim second = second) :
    trim (first ++ second) = first ++ second := by
  rw [trim, ← String.toList_inj, String.toList_ofList] at hfirst hsecond ⊢
  rw [String.toList_append]
  exact dropEnds_append_eq_self hfirst hsecond

end SheetQuery.Text
