import SheetQuery.Text.Split

/-!
# Splitting undoes joining

Pieces without the separator, joined by it and split at it again, are the same pieces; and what is split comes back when its
pieces are joined. A separator behind every piece is one between the pieces and one at the end. No piece of a split has the
separator.
-/

namespace SheetQuery.Text

variable {α : Type} [DecidableEq α] {sep : α}

/-- What has no separator is one piece. -/
theorem splitOn_of_not_mem {xs : List α} (h : sep ∉ xs) : splitOn sep xs = [xs] := by
  induction xs with
  | nil => rfl
  | cons x xs ih =>
    have hx : x ≠ sep := fun e => h (by simp [e])
    have hxs : sep ∉ xs := fun hm => h (List.mem_cons_of_mem x hm)
    rw [splitOn, if_neg hx, ih hxs]

/-- The first separator ends the first piece. -/
theorem splitOn_append_cons {piece : List α} (h : sep ∉ piece) (rest : List α) :
    splitOn sep (piece ++ sep :: rest) = piece :: splitOn sep rest := by
  induction piece with
  | nil => rw [List.nil_append, splitOn, if_pos rfl]
  | cons x piece ih =>
    have hx : x ≠ sep := fun e => h (by simp [e])
    have hpiece : sep ∉ piece := fun hm => h (List.mem_cons_of_mem x hm)
    rw [List.cons_append, splitOn, if_neg hx, ih hpiece]

omit [DecidableEq α] in
/-- A separator stands between the first piece and the others. -/
theorem joinWith_cons_cons (piece next : List α) (pieces : List (List α)) :
    joinWith sep (piece :: next :: pieces) = piece ++ sep :: joinWith sep (next :: pieces) :=
  rfl

omit [DecidableEq α] in
/-- Pieces are joined as in the library. -/
theorem joinWith_eq_intercalate (pieces : List (List α)) : joinWith sep pieces = List.intercalate [sep] pieces := by
  induction pieces with
  | nil => rfl
  | cons piece pieces ih =>
    cases pieces with
    | nil => simp [joinWith]
    | cons next pieces => rw [joinWith_cons_cons, ih, List.intercalate_cons_cons]; simp

/-- Pieces without the separator are the pieces of what they are joined to. -/
theorem splitOn_joinWith {pieces : List (List α)} (hne : pieces ≠ []) (h : ∀ piece ∈ pieces, sep ∉ piece) :
    splitOn sep (joinWith sep pieces) = pieces := by
  induction pieces with
  | nil => exact absurd rfl hne
  | cons piece pieces ih =>
    cases pieces with
    | nil => exact splitOn_of_not_mem (h piece List.mem_cons_self)
    | cons next pieces =>
      rw [joinWith_cons_cons, splitOn_append_cons (h piece List.mem_cons_self),
        ih (List.cons_ne_nil _ _) fun p hp => h p (List.mem_cons_of_mem piece hp)]

/-- The pieces of a split are put together again as what was split. -/
theorem joinWith_splitOn (xs : List α) : joinWith sep (splitOn sep xs) = xs := by
  induction xs with
  | nil => rfl
  | cons x xs ih =>
    rw [splitOn]
    cases hrest : splitOn sep xs with
    | nil => exact absurd hrest (splitOn_ne_nil sep xs)
    | cons piece pieces =>
      rw [hrest] at ih
      split
      · rename_i hx
        rw [joinWith_cons_cons, ih, hx, List.nil_append]
      · rw [← ih]
        cases pieces <;> rfl

omit [DecidableEq α] in
/-- A separator behind every piece is one between the pieces and one at the end. -/
theorem flatMap_terminated {pieces : List (List α)} (hne : pieces ≠ []) :
    pieces.flatMap (· ++ [sep]) = joinWith sep pieces ++ [sep] := by
  induction pieces with
  | nil => exact absurd rfl hne
  | cons piece pieces ih =>
    cases pieces with
    | nil => simp [joinWith]
    | cons next pieces =>
      rw [List.flatMap_cons, ih (List.cons_ne_nil _ _), joinWith_cons_cons]
      simp

/-- The pieces have no separator, and all they have comes from what was split. -/
theorem not_mem_of_mem_splitOn {xs piece : List α} (h : piece ∈ splitOn sep xs) :
    sep ∉ piece ∧ ∀ x ∈ piece, x ∈ xs := by
  induction xs generalizing piece with
  | nil =>
    obtain rfl := List.mem_singleton.1 h
    exact ⟨List.not_mem_nil, fun x hx => hx⟩
  | cons first xs ih =>
    rw [splitOn] at h
    split at h
    · rcases List.mem_cons.1 h with rfl | h
      · exact ⟨List.not_mem_nil, fun x hx => absurd hx List.not_mem_nil⟩
      · obtain ⟨hsep, hxs⟩ := ih h
        exact ⟨hsep, fun x hx => List.mem_cons_of_mem _ (hxs x hx)⟩
    · rename_i hfirst
      -- The first element joins the first piece of the others.
      cases hrest : splitOn sep xs with
      | nil => exact absurd hrest (splitOn_ne_nil sep xs)
      | cons next pieces =>
        rw [hrest] at h ih
        rcases List.mem_cons.1 h with rfl | h
        · obtain ⟨hsep, hxs⟩ := ih List.mem_cons_self
          refine ⟨fun hm => (List.mem_cons.1 hm).elim (fun e => hfirst e.symm) hsep, fun x hx => ?_⟩
          rcases List.mem_cons.1 hx with rfl | hx
          · exact List.mem_cons_self
          · exact List.mem_cons_of_mem _ (hxs x hx)
        · obtain ⟨hsep, hxs⟩ := ih (List.mem_cons_of_mem _ h)
          exact ⟨hsep, fun x hx => List.mem_cons_of_mem _ (hxs x hx)⟩

/-- What is put before a list, and is no separator, belongs to the first piece. -/
theorem tail_splitOn_cons {x : α} (h : x ≠ sep) (xs : List α) : (splitOn sep (x :: xs)).tail = (splitOn sep xs).tail := by
  rw [splitOn, if_neg h]
  cases hrest : splitOn sep xs with
  | nil => exact absurd hrest (splitOn_ne_nil sep xs)
  | cons piece pieces => rfl

/-- The first piece ends before the first separator. -/
theorem head?_splitOn (xs : List α) : (splitOn sep xs).head? = some (xs.takeWhile (· ≠ sep)) := by
  induction xs with
  | nil => rfl
  | cons x xs ih =>
    rw [splitOn]
    by_cases hx : x = sep
    · simp [hx]
    · cases hrest : splitOn sep xs with
      | nil => exact absurd hrest (splitOn_ne_nil sep xs)
      | cons piece pieces =>
        rw [hrest] at ih
        simp [hx, Option.some.inj ih]

end SheetQuery.Text
