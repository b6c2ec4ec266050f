import Mathlib.Data.List.Count
import SheetQuery.Proofs.Sheet.Label

/-!
# Decorated labels

Of a label the stars at its ends go before the underscores do, so a star stays that has an underscore farther out. As many stars
stay as the label has between other characters (`count_normalizeChars`), and it is their number alone that tells whether
decoration leaves a label what it was (`normalizeChars_eq_iff`). What is normalized once has no underscore left, so normalizing
it again takes the rest of the decoration off (`normalizeLabel_twice`).
-/

namespace SheetQuery.Sheet

open Text

/-! ## Decoration -/

/-- Whether a text is decoration and nothing else. -/
def IsDecoration (text : String) : Prop :=
  ∀ c ∈ text.toList, c = '*' ∨ c = '_'

instance (text : String) : Decidable (IsDecoration text) :=
  List.decidableBAll (fun c => c = '*' ∨ c = '_') text.toList

/-- Whether two labels differ at most in the case of letters of the ASCII set. -/
def SameButCase (label other : String) : Prop :=
  label.toList.map Char.toLower = other.toList.map Char.toLower

/-- A label and the same one with underscores between its characters, as many as may be in each place. -/
inductive Spaced : List Char → List Char → Prop where
  | nil : Spaced [] []
  | last (c : Char) : Spaced [c] [c]
  | cons (c : Char) (gap : Nat) {next : Char} {label spaced : List Char} : Spaced (next :: label) spaced →
      Spaced (c :: next :: label) (c :: (List.replicate gap '_' ++ spaced))

/-- How many stars of a label have other characters both before and behind them. -/
def enclosedStars (label : List Char) : Nat :=
  (List.range label.length).countP fun i =>
    label[i]? == some '*' && (label.take i).any (· != '*') && (label.drop i).any (· != '*')

/-- A label without its underscores. -/
def unscored (label : List Char) : List Char :=
  label.filter (· != '_')

/-- The characters of a label that are no decoration wherever they stand. -/
def plain (label : List Char) : List Char :=
  (unscored label).filter (· != '*')

/-- What is left of a label in its own case. -/
def bared (label : List Char) : List Char :=
  unscored (dropEnds (· == '*') label)

theorem normalizeChars_eq (label : List Char) : normalizeChars label = (bared label).flatMap lowercase :=
  rfl

@[simp] theorem unscored_append (label other : List Char) : unscored (label ++ other) = unscored label ++ unscored other :=
  List.filter_append ..

@[simp] theorem plain_append (label other : List Char) : plain (label ++ other) = plain label ++ plain other := by
  simp [plain]

theorem unscored_unscored (label : List Char) : unscored (unscored label) = unscored label := by
  simp [unscored]

theorem unscored_eq_self {label : List Char} (h : '_' ∉ label) : unscored label = label := by
  refine List.filter_eq_self.2 fun c hc => bne_iff_ne.2 ?_
  rintro rfl
  exact h hc

theorem score_not_mem_unscored (label : List Char) : '_' ∉ unscored label := by
  simp [unscored]

/-- Without underscores, decoration is a row of stars. -/
theorem star_of_mem_unscored {text : String} (h : IsDecoration text) : ∀ c ∈ unscored text.toList, (c == '*') = true := by
  intro c hc
  obtain ⟨hmem, hscore⟩ := List.mem_filter.1 hc
  rcases h c hmem with rfl | rfl
  · rfl
  · nomatch hscore

theorem plain_of_isDecoration {text : String} (h : IsDecoration text) : plain text.toList = [] := by
  rw [plain, List.filter_eq_nil_iff]
  intro c hc
  simpa using star_of_mem_unscored h c hc

namespace Spaced

variable {label spaced : List Char}

theorem sublist (h : Spaced label spaced) : label.Sublist spaced := by
  induction h with
  | nil => exact .slnil
  | last c => exact .refl _
  | cons c gap _ ih => exact (ih.trans (List.sublist_append_right _ _)).cons_cons c

theorem unscored_eq (h : Spaced label spaced) : unscored spaced = unscored label := by
  induction h with
  | nil => rfl
  | last c => rfl
  | cons c gap _ ih =>
    have hgap : unscored (List.replicate gap '_') = [] := by simp [unscored]
    rw [← List.singleton_append, unscored_append, unscored_append, hgap, ih, List.nil_append, ← unscored_append,
      List.singleton_append]

end Spaced

/-! ## Stars that stay -/

theorem countP_range_succ (n : Nat) (p : Nat → Bool) :
    (List.range (n + 1)).countP p = (List.range n).countP (fun i => p (i + 1)) + if p 0 then 1 else 0 := by
  rw [List.range_succ_eq_map, List.countP_cons, List.countP_map]
  rfl

/-- When the stars at the end of a label are taken off, those stay that have another character behind them. -/
theorem count_dropEnd_star (label : List Char) : (dropEnd (· == '*') label).count '*' =
    (List.range label.length).countP fun i => label[i]? == some '*' && (label.drop i).any (· != '*') := by
  induction label with
  | nil => rfl
  | cons c label ih =>
    rw [List.length_cons, countP_range_succ]
    simp only [List.getElem?_cons_succ, List.drop_succ_cons, List.getElem?_cons_zero, List.drop_zero, ← ih]
    rw [dropEnd_cons]
    by_cases hc : c = '*'
    · have hother : (c :: label).any (· != '*') = !(dropEnd (· == '*') label).isEmpty := by
        rw [Bool.eq_iff_iff]
        simp [dropEnd_eq_nil_iff, hc]
      rw [hother]
      by_cases hlabel : dropEnd (· == '*') label = [] <;> simp [hlabel, hc]
    · simp [hc]

/-- When the stars at both ends of a label are taken off, the enclosed ones stay. -/
theorem count_dropEnds_star (label : List Char) : (dropEnds (· == '*') label).count '*' = enclosedStars label := by
  induction label with
  | nil => rfl
  | cons c label ih =>
    rw [enclosedStars, List.length_cons, countP_range_succ, dropEnds]
    by_cases hc : c = '*'
    · rw [List.dropWhile_cons_of_pos (by simp [hc]), ← dropEnds, ih]
      simp [enclosedStars, hc]
    · have hother : (c != '*') = true := bne_iff_ne.2 hc
      rw [List.dropWhile_cons_of_neg (by simp [hc]), dropEnd_cons]
      simp [count_dropEnd_star, hc, hother]

theorem count_bared (label : List Char) : (bared label).count '*' = enclosedStars label := by
  rw [bared, unscored, List.count_filter (by decide), count_dropEnds_star]

theorem plain_bared (label : List Char) : (bared label).filter (· != '*') = plain label := by
  have hdrop := filter_dropEnds (p := (· == '*')) label
  have hcomm : ∀ cs : List Char, plain cs = unscored (cs.filter (· != '*')) := by
    intro cs
    simp only [plain, unscored, List.filter_filter, Bool.and_comm]
  exact (hcomm _).trans ((congrArg unscored hdrop).trans (hcomm label).symm)

/-- What is left of a label is its enclosed stars and its characters that are no decoration. -/
theorem length_bared (label : List Char) : (bared label).length = enclosedStars label + (plain label).length := by
  have hsplit := List.length_eq_countP_add_countP (· == '*') (l := bared label)
  have hcount : (bared label).countP (fun c => ¬(c == '*') = true) = (plain label).length := by
    rw [← plain_bared, ← List.countP_eq_length_filter]
    exact List.countP_congr (by simp)
  rw [hsplit, hcount, ← count_bared, List.count]

theorem bared_sublist {label decorated : List Char} (h : label.Sublist decorated) :
    (bared label).Sublist (bared decorated) :=
  (dropEnds_sublist_dropEnds h).filter _

/-! ## Lower case -/

/-- Stars are the lower case of stars only. -/
theorem star_lowercase {c d : Char} (hd : d ∈ lowercase c) : (d == '*') = (c == '*') := by
  rw [Bool.eq_iff_iff, beq_iff_eq, beq_iff_eq]
  constructor
  · rintro rfl
    exact eq_of_mem_lowercase (by decide) hd
  · rintro rfl
    exact List.mem_singleton.1 hd

theorem count_flatMap_lowercase (text : List Char) : (text.flatMap lowercase).count '*' = text.count '*' := by
  induction text with
  | nil => rfl
  | cons c text ih =>
    rw [List.flatMap_cons, List.count_append, ih, List.count_cons, Nat.add_comm]
    by_cases hc : c = '*'
    · subst hc
      rfl
    · have hno : '*' ∉ lowercase c := fun h => hc (eq_of_mem_lowercase (by decide) h)
      rw [List.count_eq_zero_of_not_mem hno, if_neg (by simpa using hc)]

/-- As many stars stay in a label as it has between other characters. -/
theorem count_normalizeChars (label : List Char) : (normalizeChars label).count '*' = enclosedStars label := by
  rw [normalizeChars_eq, count_flatMap_lowercase, count_bared]

/-- A label with more decoration, wherever that stands, is still what it was exactly when it encloses no more stars. -/
theorem normalizeChars_eq_iff {label decorated : List Char} (h : label.Sublist decorated)
    (hplain : plain decorated = plain label) :
    normalizeChars decorated = normalizeChars label ↔ enclosedStars decorated = enclosedStars label := by
  constructor
  · intro hsame
    rw [← count_normalizeChars, ← count_normalizeChars, hsame]
  · intro hstars
    -- What is left of the label is part of what is left of the decorated one, so the two need only be of one length.
    have hlength : (bared label).length = (bared decorated).length := by
      rw [length_bared, length_bared, hplain, hstars]
    rw [normalizeChars_eq, normalizeChars_eq, (bared_sublist h).eq_of_length hlength]

/-! ## Normalizing again -/

theorem dropEnds_star_lowercase (text : List Char) :
    dropEnds (· == '*') (text.flatMap lowercase) = (dropEnds (· == '*') text).flatMap lowercase :=
  dropEnds_flatMap (fun _ _ hd => star_lowercase hd) lowercase_ne_nil text

/-- A label that has no underscores loses the stars at its ends, and its case. -/
theorem normalizeChars_unscored (label : List Char) :
    normalizeChars (unscored label) = (dropEnds (· == '*') (unscored label)).flatMap lowercase := by
  rw [normalizeChars_eq, bared, unscored_eq_self]
  exact fun h => score_not_mem_unscored label ((dropEnds_sublist _).subset h)

/-- No underscore is left. -/
theorem score_not_mem_normalizeChars (label : List Char) : '_' ∉ normalizeChars label := by
  intro h
  obtain ⟨c, hc, hscore⟩ : ∃ c ∈ bared label, '_' ∈ lowercase c := List.mem_flatMap.1 h
  obtain rfl : c = '_' := eq_of_mem_lowercase (by decide) hscore
  exact score_not_mem_unscored _ hc

/-- Underscores that go first leave no star behind. -/
theorem dropEnds_unscored (label : List Char) :
    dropEnds (· == '*') (unscored label) = dropEnds (· == '*') (bared label) := by
  obtain ⟨before, after, hbefore, hafter, hlabel⟩ := exists_append_dropEnds (p := (· == '*')) label
  have hstars : ∀ {stars : List Char}, (∀ c ∈ stars, (c == '*') = true) → ∀ c ∈ unscored stars, (c == '*') = true :=
    fun h c hc => h c (List.mem_filter.1 hc).1
  have hscore := congrArg unscored hlabel
  rw [unscored_append, unscored_append] at hscore
  rw [hscore, dropEnds_append_of_forall (hstars hbefore) (hstars hafter), bared]

/-- To normalize a label twice is to take its underscores off first. -/
theorem normalizeChars_twice (label : List Char) : normalizeChars (normalizeChars label) = normalizeChars (unscored label) := by
  have hnone : '_' ∉ dropEnds (· == '*') (normalizeChars label) :=
    fun h => score_not_mem_normalizeChars label ((dropEnds_sublist _).subset h)
  rw [normalizeChars_unscored, dropEnds_unscored, normalizeChars_eq, bared, unscored_eq_self hnone, normalizeChars_eq,
    dropEnds_star_lowercase, flatMap_lowercase]

theorem toList_normalizeLabel (label : String) : (normalizeLabel label).toList = normalizeChars label.toList :=
  String.toList_ofList

theorem normalizeLabel_eq_iff {label other : String} :
    normalizeLabel label = normalizeLabel other ↔ normalizeChars label.toList = normalizeChars other.toList := by
  rw [← String.toList_inj, toList_normalizeLabel, toList_normalizeLabel]

/-- Normalizing twice leaves no decoration, whatever it is made of. -/
theorem normalizeLabel_twice {before after : String} (hbefore : IsDecoration before) (hafter : IsDecoration after)
    (label : String) :
    normalizeLabel (normalizeLabel (before ++ label ++ after)) = normalizeLabel (normalizeLabel label) := by
  have hstars := dropEnds_append_of_forall (star_of_mem_unscored hbefore) (star_of_mem_unscored hafter)
    (unscored label.toList)
  rw [normalizeLabel_eq_iff, toList_normalizeLabel, toList_normalizeLabel, normalizeChars_twice, normalizeChars_twice,
    normalizeChars_unscored, normalizeChars_unscored, String.toList_append, String.toList_append, unscored_append,
    unscored_append, hstars]

/-- What is normalized twice stays as it is. -/
theorem normalizeLabel_settled (label : String) :
    normalizeLabel (normalizeLabel (normalizeLabel label)) = normalizeLabel (normalizeLabel label) := by
  rw [normalizeLabel_eq_iff, toList_normalizeLabel, normalizeChars_twice, toList_normalizeLabel,
    unscored_eq_self (score_not_mem_normalizeChars _)]

/-! ## One label -/

/-- Stars and then underscores before a label, and the other way round behind it, are decoration that does not show. -/
theorem normalizeChars_plainly {label : List Char} (h : dropEnds (· == '*') label = label)
    (stars scores scores' stars' : Nat) :
    normalizeChars (List.replicate stars '*' ++ (List.replicate scores '_' ++ label ++ List.replicate scores' '_') ++
      List.replicate stars' '*') = normalizeChars label := by
  have hstars : ∀ n, ∀ c ∈ List.replicate n '*', (c == '*') = true := by
    intro n c hc
    rw [List.eq_of_mem_replicate hc]
    rfl
  have hscores : ∀ n, dropEnds (· == '*') (List.replicate n '_') = List.replicate n '_' := by
    refine fun n => dropEnds_of_forall fun c hc => ?_
    rw [List.eq_of_mem_replicate hc]
    rfl
  have hnone : ∀ n, unscored (List.replicate n '_') = [] := fun n => by simp [unscored]
  rw [normalizeChars_eq, normalizeChars_eq, bared, bared, dropEnds_append_of_forall (hstars _) (hstars _),
    dropEnds_append_eq_self (dropEnds_append_eq_self (hscores _) h) (hscores _), h, unscored_append, unscored_append,
    hnone, hnone, List.nil_append, List.append_nil]

/-- Labels that differ in the case of letters of the ASCII set are normalized alike. -/
theorem normalizeChars_of_sameButCase {label other : List Char} (h : label.map Char.toLower = other.map Char.toLower) :
    normalizeChars other = normalizeChars label := by
  rw [← normalizeChars_map lowercase_toLower, ← h, normalizeChars_map lowercase_toLower]

/-- How far the decoration of a label matters. Decoration at its ends leaves it what it was exactly when no more stars are
enclosed than were, as it does where underscores stand next to a label that has no stars at its ends and stars stand farther
out. The case of letters of the ASCII set never matters, and underscores between the characters matter only as far as they
enclose a star. What is normalized stays the same exactly when the underscores of the label enclose no star. -/
theorem normalizeLabel_decorated (label : String) :
    (∀ before after, IsDecoration before → IsDecoration after →
      (normalizeLabel (before ++ label ++ after) = normalizeLabel label ↔
        enclosedStars (before ++ label ++ after).toList = enclosedStars label.toList)) ∧
    ((∀ c ∈ label.toList.head?, c ≠ '*') → (∀ c ∈ label.toList.getLast?, c ≠ '*') → ∀ stars scores scores' stars',
      normalizeLabel (String.ofList (List.replicate stars '*' ++ List.replicate scores '_') ++ label ++
        String.ofList (List.replicate scores' '_' ++ List.replicate stars' '*')) = normalizeLabel label) ∧
    (∀ other, SameButCase label other → normalizeLabel other = normalizeLabel label) ∧
    (∀ spaced : String, Spaced label.toList spaced.toList →
      (normalizeLabel spaced = normalizeLabel label ↔ enclosedStars spaced.toList = enclosedStars label.toList)) ∧
    (normalizeLabel (normalizeLabel label) = normalizeLabel label ↔
      enclosedStars label.toList = enclosedStars (unscored label.toList)) := by
  refine ⟨fun before after hbefore hafter => ?_, fun hfirst hlast stars scores scores' stars' => ?_, fun other h => ?_,
    fun spaced h => ?_, ?_⟩
  · have hsub : label.toList.Sublist (before ++ label ++ after).toList := by
      rw [String.toList_append, String.toList_append]
      exact (List.sublist_append_right _ _).trans (List.sublist_append_left _ _)
    have hplain : plain (before ++ label ++ after).toList = plain label.toList := by
      rw [String.toList_append, String.toList_append, plain_append, plain_append, plain_of_isDecoration hbefore,
        plain_of_isDecoration hafter, List.nil_append, List.append_nil]
    rw [normalizeLabel_eq_iff, normalizeChars_eq_iff hsub hplain]
  · have hends : dropEnds (· == '*') label.toList = label.toList :=
      dropEnds_eq_self_iff.2 ⟨fun c hc => beq_false_of_ne (hfirst c hc), fun c hc => beq_false_of_ne (hlast c hc)⟩
    have hplainly := normalizeChars_plainly hends stars scores scores' stars'
    rw [normalizeLabel_eq_iff, ← hplainly]
    simp only [String.toList_append, String.toList_ofList, List.append_assoc]
  · rw [normalizeLabel_eq_iff]
    exact normalizeChars_of_sameButCase h
  · have hplain : plain spaced.toList = plain label.toList := by rw [plain, plain, h.unscored_eq]
    rw [normalizeLabel_eq_iff, normalizeChars_eq_iff h.sublist hplain]
  · have hsub : (unscored label.toList).Sublist label.toList := List.filter_sublist
    have hplain : plain label.toList = plain (unscored label.toList) := by rw [plain, plain, unscored_unscored]
    rw [normalizeLabel_eq_iff, toList_normalizeLabel, normalizeChars_twice, ← normalizeChars_eq_iff hsub hplain]
    exact eq_comm

/-- A name with stars and underscores at its ends, with an underscore in it and in other letters. -/
theorem normalizeLabel_decorated_id :
    (IsDecoration "*_" ∧ IsDecoration "_**" ∧ normalizeLabel ("*_" ++ "id" ++ "_**") = normalizeLabel "id") ∧
      (SameButCase "id" "Id" ∧ normalizeLabel "Id" = normalizeLabel "id") ∧
      (Spaced "id".toList "i__d".toList ∧ normalizeLabel "i__d" = normalizeLabel "id") ∧
      normalizeLabel (normalizeLabel "*i_d") = normalizeLabel "*i_d" := by
  have hbefore : IsDecoration "*_" := by decide
  have hafter : IsDecoration "_**" := by decide
  have hcase : SameButCase "id" "Id" := rfl
  have hspaced : Spaced "id".toList "i__d".toList := .cons 'i' 2 (.last 'd')
  obtain ⟨hends, -, hother, hbetween, -⟩ := normalizeLabel_decorated "id"
  obtain ⟨-, -, -, -, hagain⟩ := normalizeLabel_decorated "*i_d"
  exact ⟨⟨hbefore, hafter, (hends _ _ hbefore hafter).2 (by decide)⟩, ⟨hcase, hother _ hcase⟩,
    ⟨hspaced, (hbetween _ hspaced).2 (by decide)⟩, hagain.2 (by decide)⟩

/-- A star with an underscore farther out stays, whether decoration, an underscore in the label or the label itself has put it
there. -/
theorem normalizeLabel_enclosing :
    (IsDecoration "_*" ∧ IsDecoration "" ∧ normalizeLabel ("_*" ++ "id" ++ "") ≠ normalizeLabel "id") ∧
      (Spaced "**id".toList "*_*id".toList ∧ normalizeLabel "*_*id" ≠ normalizeLabel "**id") ∧
      normalizeLabel (normalizeLabel "_*id") ≠ normalizeLabel "_*id" := by
  refine ⟨⟨by decide, by decide, by decide⟩, ⟨?_, by decide⟩, by decide⟩
  exact .cons '*' 1 (.cons '*' 0 (.cons 'i' 0 (.last 'd')))

end SheetQuery.Sheet
