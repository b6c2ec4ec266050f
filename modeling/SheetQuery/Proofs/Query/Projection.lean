import SheetQuery.Proofs.Json.Path
import SheetQuery.Store.Page

/-!
# Projections

A path that is named again adds nothing: what it leads to has been kept already, or left out already, and no other path has
undone that. So a projection is known by its two lists without their repetitions. A path that lies behind one that is shown,
or anywhere if none is named, and neither behind nor before one that is hidden, leads in the projected document to what it
leads to in the document itself.
-/

namespace SheetQuery.Query

open Json

/-! ## Repetitions -/

/-- Steps that are settled once they have been made may be left out where they come again. -/
theorem foldl_eraseDups {α β : Type} [BEq α] [LawfulBEq α] {step : β → α → β} (Sound : β → Prop)
    (Settled : β → α → Prop) (hsound : ∀ b a, Sound b → Sound (step b a))
    (hself : ∀ b a, Sound b → Settled (step b a) a)
    (hkeep : ∀ b a a', Sound b → Settled b a → Settled (step b a') a) (hstep : ∀ b a, Settled b a → step b a = b)
    {b : β} (hb : Sound b) (xs : List α) : xs.foldl step b = xs.eraseDups.foldl step b := by
  -- A settled step may be left out wherever it comes again.
  have hfilter : ∀ (ys : List α) (a : α) (c : β), Sound c → Settled c a →
      ys.foldl step c = (ys.filter fun y => !y == a).foldl step c := by
    intro ys
    induction ys with
    | nil => intro a c _ _; rfl
    | cons y ys ih =>
      intro a c hc ha
      by_cases hy : y = a
      · subst hy
        rw [List.foldl_cons, hstep c y ha, List.filter_cons_of_neg (by simp)]
        exact ih y c hc ha
      · rw [List.foldl_cons, List.filter_cons_of_pos (by simpa using hy), List.foldl_cons]
        exact ih a (step c y) (hsound c y hc) (hkeep c a y hc ha)
  induction hlen : xs.length using Nat.strongRecOn generalizing xs b with
  | ind n ih =>
    cases xs with
    | nil => rfl
    | cons x xs =>
      rw [List.eraseDups_cons, List.foldl_cons, List.foldl_cons,
        hfilter xs x (step b x) (hsound b x hb) (hself b x hb)]
      have hshort : (xs.filter fun y => !y == x).length < n := by
        rw [← hlen]
        exact Nat.lt_succ_of_le (List.length_filter_le _ _)
      exact ih _ hshort (hsound b x hb) _ rfl

theorem eraseDups_eq_nil_iff {α : Type} [BEq α] {xs : List α} : xs.eraseDups = [] ↔ xs = [] := by
  cases xs with
  | nil => exact ⟨fun _ => rfl, fun _ => rfl⟩
  | cons x xs =>
    rw [List.eraseDups_cons]
    exact ⟨fun e => (nomatch e), fun e => (nomatch e)⟩

theorem exists_pathKeys (path : String) : ∃ key keys, pathKeys path = key :: keys := by
  cases h : pathKeys path with
  | nil =>
    rw [pathKeys, Text.pieces, List.map_eq_nil_iff] at h
    exact absurd h (Text.splitOn_ne_nil _ _)
  | cons key keys => exact ⟨key, keys, rfl⟩

/-- One key leads to the member of the store. -/
theorem pathKeys_storeIdField : pathKeys storeIdField = [storeIdField] := by
  decide

namespace Projection

/-! ## Keeping -/

/-- The document with one more path of another kept. -/
def keepPath (document kept : Json) (path : String) : Json :=
  match document.lookup path with
  | some value => kept.insertAt path value
  | none => kept

theorem keepPaths_eq (paths : List String) (document : Json) :
    keepPaths paths document = paths.foldl (keepPath document) (.obj []) :=
  rfl

/-- What is kept of an object is within it. -/
theorem within_keepPath {document kept : Json} (h : Within kept document) (path : String) :
    Within (keepPath document kept path) document := by
  rw [keepPath]
  cases hvalue : document.lookup path with
  | none => exact h
  | some value => exact h.insertKeys hvalue

/-- What is at a path that is kept is there. -/
theorem lookup_keepPath_self {document kept value : Json} (h : Within kept document) {path : String}
    (hvalue : document.lookup path = some value) : (keepPath document kept path).lookup path = some value := by
  rw [keepPath, hvalue]
  obtain ⟨key, keys, hpath⟩ := exists_pathKeys path
  rw [Json.lookup, hpath] at hvalue ⊢
  simp only [Json.insertAt, hpath]
  exact h.lookupKeys_insertKeys hvalue

/-- What has been kept of a document stays there when more is kept. -/
theorem lookup_keepPath_of_eq {document kept other : Json} (h : Within kept document) (path : String) {path' : String}
    (hother : document.lookup path' = some other) (hkept : kept.lookup path' = some other) :
    (keepPath document kept path).lookup path' = some other := by
  rw [keepPath]
  cases hvalue : document.lookup path with
  | none => exact hkept
  | some value => exact h.lookupKeys_insertKeys_of_eq hvalue hother hkept

/-- In what is no object no path leads anywhere. -/
theorem lookup_of_isObj_eq_false {document : Json} (h : document.isObj = false) (path : String) :
    document.lookup path = none := by
  obtain ⟨key, keys, hpath⟩ := exists_pathKeys path
  rw [Json.lookup, hpath]
  cases document with
  | obj members => nomatch h
  | _ => rfl

/-- Keeping a path a second time changes nothing. -/
theorem keepPath_eq_self {document kept : Json} {path : String}
    (h : ∀ value, document.lookup path = some value → kept.lookup path = some value) :
    keepPath document kept path = kept := by
  rw [keepPath]
  cases hvalue : document.lookup path with
  | none => rfl
  | some value => exact insertKeys_eq_self (h value hvalue)

/-- What is kept does not depend on repetitions. -/
theorem keepPaths_eraseDups (paths : List String) (document : Json) :
    keepPaths paths document = keepPaths paths.eraseDups document := by
  rw [keepPaths_eq, keepPaths_eq]
  cases hobj : document.isObj with
  | true =>
    obtain ⟨members, rfl⟩ := exists_of_isObj hobj
    exact foldl_eraseDups (fun kept => Within kept (.obj members))
      (fun kept path => ∀ value, Json.lookup path (.obj members) = some value → kept.lookup path = some value)
      (fun kept path h => within_keepPath h path) (fun kept path h value hvalue => lookup_keepPath_self h hvalue)
      (fun kept path path' h hsettled value hvalue => lookup_keepPath_of_eq h path' hvalue (hsettled value hvalue))
      (fun kept path h => keepPath_eq_self h) (.empty members) paths
  | false =>
    refine foldl_eraseDups (fun _ => True) (fun _ _ => True) (fun _ _ _ => trivial)
      (fun _ _ _ => trivial) (fun _ _ _ _ _ => trivial) (fun kept path _ => keepPath_eq_self fun value hvalue => ?_)
      trivial paths
    rw [lookup_of_isObj_eq_false hobj] at hvalue
    nomatch hvalue

/-- What is kept of a document without doubled keys has none either. -/
theorem distinct_keepPaths {document : Json} (h : Distinct document) (paths : List String) :
    Distinct (keepPaths paths document) := by
  rw [keepPaths_eq]
  have hfold : ∀ kept, Distinct kept → Distinct (paths.foldl (keepPath document) kept) := by
    induction paths with
    | nil => exact fun kept hkept => hkept
    | cons path paths ih =>
      intro kept hkept
      refine ih _ ?_
      rw [keepPath]
      cases hvalue : document.lookup path with
      | none => exact hkept
      | some value => exact distinct_insertKeys (h.of_lookupKeys hvalue) hkept
  exact hfold _ distinct_empty

/-! ## Leaving out -/

/-- What is left out of a document without doubled keys does not depend on repetitions. -/
theorem dropPaths_eraseDups {document : Json} (h : Distinct document) (paths : List String) :
    dropPaths paths document = dropPaths paths.eraseDups document := by
  refine foldl_eraseDups Distinct (fun kept path => kept.lookup path = none)
    (fun kept path hkept => distinct_removeKeys hkept) (fun kept path hkept => ?_)
    (fun kept path path' hkept hnone => lookupKeys_removeKeys_of_none hkept hnone)
    (fun kept path hnone => removeKeys_eq_self hnone) h paths
  obtain ⟨key, keys, hpath⟩ := exists_pathKeys path
  change lookupKeys (pathKeys path) (removeKeys (pathKeys path) kept) = none
  rw [hpath]
  exact lookupKeys_removeKeys_self hkept

/-- Projections whose lists are the same but for repetitions show documents without doubled keys alike. -/
theorem apply_congr {projection projection' : Projection}
    (hi : projection.included.eraseDups = projection'.included.eraseDups)
    (he : projection.excluded.eraseDups = projection'.excluded.eraseDups) {document : Json} (h : Distinct document) :
    projection.apply document = projection'.apply document := by
  have hkept : (if projection.included.isEmpty then document else keepPaths projection.included document) =
      if projection'.included.isEmpty then document else keepPaths projection'.included document := by
    rw [keepPaths_eraseDups projection.included, keepPaths_eraseDups projection'.included, hi]
    by_cases hnone : projection.included = []
    · have hnone' : projection'.included = [] := eraseDups_eq_nil_iff.1 (hi ▸ eraseDups_eq_nil_iff.2 hnone)
      rw [hnone, hnone']
    · have hsome' : projection'.included ≠ [] := fun e => hnone (eraseDups_eq_nil_iff.1 (hi ▸ eraseDups_eq_nil_iff.2 e))
      rw [if_neg (by simpa using hnone), if_neg (by simpa using hsome')]
  have hdistinct : Distinct ((if projection'.included.isEmpty then document
      else keepPaths projection'.included document).removeAt storeIdField) := by
    refine distinct_removeKeys ?_
    split
    · exact h
    · exact distinct_keepPaths h _
  rw [apply, apply]
  simp only [hkept]
  rw [dropPaths_eraseDups hdistinct projection.excluded, dropPaths_eraseDups hdistinct projection'.excluded, he]

/-! ## What stays visible -/

/-- Whether a path leads in projected documents to what it leads to in the documents themselves: it lies behind a path that is
shown, if any is named, and neither behind nor before one that is hidden. -/
def Keeps (projection : Projection) (path : String) : Prop :=
  (projection.included = [] ∨ ∃ shown ∈ projection.included, pathKeys shown <+: pathKeys path) ∧
    ∀ hidden ∈ storeIdField :: projection.excluded, Apart (pathKeys hidden) (pathKeys path)

instance (projection : Projection) (path : String) : Decidable (projection.Keeps path) :=
  inferInstanceAs (Decidable (_ ∧ _))

/-- What is kept of an object when more paths are kept is within it, and nothing that was there is lost. -/
theorem foldl_keepPath {document kept : Json} (h : Within kept document) (paths : List String) :
    Within (paths.foldl (keepPath document) kept) document ∧
      ∀ path value, document.lookup path = some value → kept.lookup path = some value →
        (paths.foldl (keepPath document) kept).lookup path = some value := by
  induction paths generalizing kept with
  | nil => exact ⟨h, fun path value _ hkept => hkept⟩
  | cons first paths ih =>
    obtain ⟨hwithin, hrest⟩ := ih (within_keepPath h first)
    exact ⟨hwithin, fun path value hvalue hkept => hrest path value hvalue (lookup_keepPath_of_eq h first hvalue hkept)⟩

/-- What is at a path that is kept is there, whatever else is kept. -/
theorem lookup_foldl_keepPath {document kept value : Json} (h : Within kept document) {paths : List String} {path : String}
    (hpath : path ∈ paths) (hvalue : document.lookup path = some value) :
    (paths.foldl (keepPath document) kept).lookup path = some value := by
  induction paths generalizing kept with
  | nil => nomatch hpath
  | cons first paths ih =>
    have hwithin := within_keepPath h first
    rcases List.mem_cons.1 hpath with rfl | hpath
    · exact (foldl_keepPath hwithin paths).2 path value hvalue (lookup_keepPath_self h hvalue)
    · exact ih hwithin hpath

/-- Behind a path that is kept every path leads to what it leads to in the document. -/
theorem lookup_keepPaths {paths : List String} {shown path : String} (hshown : shown ∈ paths)
    (hbehind : pathKeys shown <+: pathKeys path) (document : Json) :
    (keepPaths paths document).lookup path = document.lookup path := by
  cases hobj : document.isObj with
  | true =>
    obtain ⟨members, rfl⟩ := exists_of_isObj hobj
    obtain ⟨hwithin, -⟩ := foldl_keepPath (.empty members) paths
    obtain ⟨rest, hrest⟩ := hbehind
    rw [keepPaths_eq]
    cases hvalue : Json.lookup shown (.obj members) with
    | some value =>
      have hkept := lookup_foldl_keepPath (.empty members) hshown hvalue
      rw [Json.lookup] at hvalue hkept
      rw [Json.lookup, Json.lookup, ← hrest, lookupKeys_append, lookupKeys_append, hvalue, hkept]
    | none =>
      have hnone : Json.lookup path (.obj members) = none := by
        rw [Json.lookup] at hvalue
        rw [Json.lookup, ← hrest, lookupKeys_append, hvalue]
        rfl
      rw [hnone]
      exact hwithin.lookupKeys_eq_none hnone
  | false =>
    have hkept : keepPaths paths document = .obj [] := by
      rw [keepPaths_eq]
      refine List.foldlRecOn (motive := fun kept => kept = .obj []) paths (keepPath document) rfl fun kept hkept path _ => ?_
      rw [keepPath_eq_self, hkept]
      intro value hvalue
      rw [lookup_of_isObj_eq_false hobj] at hvalue
      nomatch hvalue
    obtain ⟨key, keys, hpath⟩ := exists_pathKeys path
    rw [lookup_of_isObj_eq_false hobj, hkept, Json.lookup, hpath]
    rfl

/-- What is kept of a document depends only on what the paths lead to. -/
theorem keepPaths_congr {paths : List String} {document document' : Json}
    (h : ∀ path ∈ paths, document.lookup path = document'.lookup path) :
    keepPaths paths document = keepPaths paths document' := by
  rw [keepPaths_eq, keepPaths_eq]
  refine List.foldl_ext _ _ _ fun kept path hpath => ?_
  rw [keepPath, keepPath, h path hpath]

/-- Leaving paths out makes no key double, and it changes nothing that is apart from all of them. -/
theorem lookup_dropPaths {paths : List String} {path : String}
    (hapart : ∀ hidden ∈ paths, Apart (pathKeys hidden) (pathKeys path)) {document : Json} (h : Distinct document) :
    Distinct (dropPaths paths document) ∧ (dropPaths paths document).lookup path = document.lookup path := by
  induction paths generalizing document with
  | nil => exact ⟨h, rfl⟩
  | cons hidden paths ih =>
    have hremoved : Distinct (document.removeAt hidden) := distinct_removeKeys h
    obtain ⟨hdistinct, hlookup⟩ := ih (fun other hother => hapart other (List.mem_cons_of_mem hidden hother)) hremoved
    refine ⟨hdistinct, hlookup.trans ?_⟩
    exact lookupKeys_removeKeys_of_apart h (hapart hidden List.mem_cons_self)

/-- A path that a projection keeps leads in a projected document to what it leads to in the document. -/
theorem lookup_apply {projection : Projection} {path : String} (hkeeps : projection.Keeps path) {document : Json}
    (h : Distinct document) : (projection.apply document).lookup path = document.lookup path := by
  obtain ⟨hshown, hapart⟩ := hkeeps
  -- The member of the store is left out like any hidden path, and before all of them.
  have happly : projection.apply document = dropPaths (storeIdField :: projection.excluded)
      (if projection.included.isEmpty then document else keepPaths projection.included document) := rfl
  rw [happly]
  split
  · exact (lookup_dropPaths hapart h).2
  · rename_i hsome
    rcases hshown with hnone | ⟨shown, hmem, hbehind⟩
    · rw [hnone] at hsome
      exact absurd rfl hsome
    · rw [(lookup_dropPaths hapart (distinct_keepPaths h _)).2]
      exact lookup_keepPaths hmem hbehind document

/-- The projection that leaves out only the member of the store. -/
def whole : Projection :=
  ⟨[], []⟩

theorem distinct_whole_apply {document : Json} (h : Distinct document) : Distinct (whole.apply document) :=
  distinct_removeKeys h

/-- Leaving out the member of the store first changes nothing that is projected afterwards, unless a path leads into it. -/
theorem apply_whole_apply {projection : Projection}
    (hids : ∀ path ∈ projection.included, ∀ keys, pathKeys path ≠ storeIdField :: keys) {document : Json}
    (h : Distinct document) : projection.apply (whole.apply document) = projection.apply document := by
  have hkeys : pathKeys storeIdField = [storeIdField] := by decide
  have hwhole : whole.apply document = removeKeys [storeIdField] document := by
    rw [← hkeys]
    rfl
  have hkept : (if projection.included.isEmpty then whole.apply document
        else keepPaths projection.included (whole.apply document)).removeAt storeIdField =
      (if projection.included.isEmpty then document
        else keepPaths projection.included document).removeAt storeIdField := by
    rw [hwhole]
    split
    · rw [Json.removeAt, Json.removeAt, hkeys]
      exact removeKeys_eq_self (lookupKeys_removeKeys_self h)
    · refine congrArg (Json.removeAt storeIdField) (keepPaths_congr fun path hpath => ?_)
      obtain ⟨key, keys, hpathKeys⟩ := exists_pathKeys path
      have hne : storeIdField ≠ key := fun he => hids path hpath keys (he ▸ hpathKeys)
      rw [Json.lookup, Json.lookup, hpathKeys]
      exact lookupKeys_removeKeys_of_apart h (apart_cons_iff.2 fun he => absurd he hne)
  exact congrArg (dropPaths projection.excluded) hkept

end Projection

end SheetQuery.Query
