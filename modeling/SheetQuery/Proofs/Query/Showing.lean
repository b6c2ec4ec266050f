import SheetQuery.Proofs.Json.Outline
import SheetQuery.Proofs.Query.Projection

/-!
# What a projection shows

Every path leads in a projected document to one of three things. Behind a hidden path there is nothing. Behind a shown path,
or anywhere if none is named, there is what the document has, but for what is hidden in it. And on the way to a shown path
there is an object if that path leads anywhere in the document. None of this depends on the order of the paths or on
repetitions (`apply_asAsked`).
-/

namespace SheetQuery.Query.Projection

open Json

/-! ## Keeping -/

/-- Behind a path that is kept keys lead to what they lead to in the document. -/
theorem lookupKeys_keepPaths {paths : List String} {shown : String} {keys : List String} (hshown : shown ∈ paths)
    (hbehind : pathKeys shown <+: keys) (document : Json) :
    lookupKeys keys (keepPaths paths document) = lookupKeys keys document := by
  have hkept := lookup_keepPaths hshown (List.prefix_refl _) document
  obtain ⟨rest, rfl⟩ := hbehind
  rw [Json.lookup, Json.lookup] at hkept
  rw [lookupKeys_append, lookupKeys_append, hkept]

/-- What is kept of a document is an object. -/
theorem isObj_keepPaths (paths : List String) (document : Json) : (keepPaths paths document).isObj = true := by
  rw [keepPaths_eq]
  refine List.foldlRecOn (motive := fun kept : Json => kept.isObj = true) paths (keepPath document) rfl
    fun kept hkept path _ => ?_
  obtain ⟨members, rfl⟩ := exists_of_isObj hkept
  obtain ⟨key, keys, hpath⟩ := exists_pathKeys path
  rw [keepPath]
  cases document.lookup path with
  | none => rfl
  | some value =>
    dsimp only
    rw [Json.insertAt, hpath, insertKeys_cons_obj]
    rfl

/-- On the way to a path that is kept there is an object, if the path leads anywhere. -/
theorem exists_obj_keepPaths {paths : List String} {shown : String} {keys : List String} (hshown : shown ∈ paths)
    (hway : keys <+: pathKeys shown) (hbefore : ¬ pathKeys shown <+: keys) {document : Json}
    (hthere : (document.lookup shown).isSome = true) :
    ∃ members, lookupKeys keys (keepPaths paths document) = some (.obj members) := by
  obtain ⟨value, hvalue⟩ := Option.isSome_iff_exists.1 hthere
  have hkept := lookup_keepPaths hshown (List.prefix_refl _) document
  obtain ⟨rest, hrest⟩ := hway
  have hne : rest ≠ [] := by
    rintro rfl
    rw [← hrest, List.append_nil] at hbefore
    exact hbefore (List.prefix_refl keys)
  obtain ⟨next, rest, rfl⟩ := List.exists_cons_of_ne_nil hne
  rw [hvalue, Json.lookup, ← hrest, lookupKeys_append] at hkept
  obtain ⟨child, hchild, hbehind⟩ := Option.bind_eq_some_iff.1 hkept
  obtain ⟨members, -, rfl, -⟩ := exists_obj_of_lookupKeys hbehind
  exact ⟨members, hchild⟩

/-- Elsewhere nothing is kept. -/
theorem lookupKeys_keepPaths_eq_none {paths : List String} {keys : List String} (hkeys : keys ≠ []) {document : Json}
    (hbefore : ∀ shown ∈ paths, ¬ pathKeys shown <+: keys)
    (hway : ∀ shown ∈ paths, keys <+: pathKeys shown → document.lookup shown = none) :
    lookupKeys keys (keepPaths paths document) = none := by
  rw [keepPaths_eq]
  refine List.foldlRecOn (motive := fun kept => lookupKeys keys kept = none) paths (keepPath document) ?_
    fun kept hkept path hpath => ?_
  · obtain ⟨key, keys, rfl⟩ := List.exists_cons_of_ne_nil hkeys
    rfl
  · rw [keepPath]
    cases hvalue : document.lookup path with
    | none => exact hkept
    | some value =>
      -- A path that leads somewhere is apart from the keys, so keeping it changes nothing there.
      have hapart : Apart (pathKeys path) keys :=
        ⟨hbefore path hpath, fun h => Option.some_ne_none value (hvalue.symm.trans (hway path hpath h))⟩
      exact (lookupKeys_insertKeys_of_apart hapart value kept).trans hkept

/-! ## Leaving out -/

/-- Leaving paths out makes no key double. -/
theorem distinct_dropPaths {document : Json} (h : Distinct document) (paths : List String) :
    Distinct (dropPaths paths document) :=
  List.foldlRecOn paths _ h fun _ hkept _ _ => distinct_removeKeys hkept

/-- What is not there does not come back when paths are left out. -/
theorem lookupKeys_dropPaths_of_none {keys : List String} {document : Json} (h : Distinct document)
    (hnone : lookupKeys keys document = none) (paths : List String) : lookupKeys keys (dropPaths paths document) = none :=
  (List.foldlRecOn (motive := fun kept => Distinct kept ∧ lookupKeys keys kept = none) paths _ ⟨h, hnone⟩
    fun _ hkept _ _ => ⟨distinct_removeKeys hkept.1, lookupKeys_removeKeys_of_none hkept.1 hkept.2⟩).2

/-- Behind a path that is left out there is nothing. -/
theorem lookupKeys_dropPaths_eq_none {paths : List String} {hidden : String} {keys : List String}
    (hhidden : hidden ∈ paths) (hbehind : pathKeys hidden <+: keys) {document : Json} (h : Distinct document) :
    lookupKeys keys (dropPaths paths document) = none := by
  induction paths generalizing document with
  | nil => nomatch hhidden
  | cons first paths ih =>
    have hremoved : Distinct (document.removeAt first) := distinct_removeKeys h
    rcases List.mem_cons.1 hhidden with rfl | hhidden
    · obtain ⟨key, rest, hpath⟩ := exists_pathKeys hidden
      have hgone : lookupKeys keys (document.removeAt hidden) = none :=
        lookupKeys_removeKeys_of_prefix (hpath ▸ List.cons_ne_nil key rest) hbehind h
      exact lookupKeys_dropPaths_of_none hremoved hgone paths
    · exact ih hhidden hremoved

/-- Everywhere but behind the paths that are left out the outline stays as it is. -/
theorem outline_dropPaths {paths : List String} {keys : List String}
    (hbehind : ∀ hidden ∈ paths, ¬ pathKeys hidden <+: keys) {document : Json} (h : Distinct document) :
    outline keys (dropPaths paths document) = outline keys document := by
  induction paths generalizing document with
  | nil => rfl
  | cons first paths ih =>
    have hrest := ih (fun hidden hhidden => hbehind hidden (List.mem_cons_of_mem first hhidden))
      (distinct_removeKeys h : Distinct (document.removeAt first))
    exact hrest.trans (outline_removeKeys (hbehind first List.mem_cons_self) h)

/-! ## Showing -/

/-- Whether keys lead through a path that is hidden. -/
def Hides (projection : Projection) (keys : List String) : Prop :=
  ∃ hidden ∈ storeIdField :: projection.excluded, pathKeys hidden <+: keys

/-- Whether keys lead through a path that is shown, as all do if none is named. -/
def Shows (projection : Projection) (keys : List String) : Prop :=
  projection.included = [] ∨ ∃ shown ∈ projection.included, pathKeys shown <+: keys

/-- Whether keys are on the way to a path that is shown and leads to something in a document. -/
def Passes (projection : Projection) (document : Json) (keys : List String) : Prop :=
  ∃ shown ∈ projection.included, keys <+: pathKeys shown ∧ (document.lookup shown).isSome = true

instance (projection : Projection) (keys : List String) : Decidable (projection.Hides keys) :=
  inferInstanceAs (Decidable (∃ hidden ∈ storeIdField :: projection.excluded, pathKeys hidden <+: keys))

instance (projection : Projection) (keys : List String) : Decidable (projection.Shows keys) :=
  inferInstanceAs (Decidable (projection.included = [] ∨ ∃ shown ∈ projection.included, pathKeys shown <+: keys))

instance (projection : Projection) (document : Json) (keys : List String) : Decidable (projection.Passes document keys) :=
  inferInstanceAs (Decidable (∃ shown ∈ projection.included, keys <+: pathKeys shown ∧ (document.lookup shown).isSome = true))

/-- What a projection keeps of a document before it hides anything. -/
def kept (projection : Projection) (document : Json) : Json :=
  if projection.included.isEmpty then document else keepPaths projection.included document

variable {projection : Projection} {document : Json} {keys : List String}

/-- The member of the store is left out like any hidden path, and before all of them. -/
theorem apply_eq (projection : Projection) (document : Json) :
    projection.apply document = dropPaths (storeIdField :: projection.excluded) (projection.kept document) :=
  rfl

theorem kept_of_ne_nil (h : projection.included ≠ []) (document : Json) :
    projection.kept document = keepPaths projection.included document := by
  rw [kept, if_neg]
  rwa [List.isEmpty_iff]

theorem distinct_kept (h : Distinct document) (projection : Projection) : Distinct (projection.kept document) := by
  rw [kept]
  split
  · exact h
  · exact distinct_keepPaths h _

theorem distinct_apply (h : Distinct document) (projection : Projection) : Distinct (projection.apply document) := by
  rw [apply_eq]
  exact distinct_dropPaths (distinct_kept h projection) _

/-- What is shown is kept as it is in the document. -/
theorem lookupKeys_kept_of_shows (hshows : projection.Shows keys) (document : Json) :
    lookupKeys keys (projection.kept document) = lookupKeys keys document := by
  by_cases hnone : projection.included = []
  · rw [kept, hnone]
    rfl
  · obtain ⟨shown, hshown, hbehind⟩ := hshows.resolve_left hnone
    rw [kept_of_ne_nil hnone]
    exact lookupKeys_keepPaths hshown hbehind document

/-- On the way to what is shown, and for the document itself, objects are kept. -/
theorem outline_kept_of_passes (hshows : ¬ projection.Shows keys) (hpasses : keys = [] ∨ projection.Passes document keys) :
    outline keys (projection.kept document) = some none := by
  rw [kept_of_ne_nil fun hnone => hshows (.inl hnone)]
  rcases hpasses with rfl | ⟨shown, hshown, hway, hthere⟩
  · exact congrArg some (leaf?_eq_none_iff.2 (isObj_keepPaths _ document))
  · obtain ⟨members, hkept⟩ :=
      exists_obj_keepPaths hshown hway (fun hbehind => hshows (.inr ⟨shown, hshown, hbehind⟩)) hthere
    rw [outline, hkept]
    rfl

/-- Elsewhere nothing is kept. -/
theorem outline_kept_eq_none (hshows : ¬ projection.Shows keys)
    (hpasses : ¬ (keys = [] ∨ projection.Passes document keys)) : outline keys (projection.kept document) = none := by
  obtain ⟨hkeys, hpasses⟩ := not_or.1 hpasses
  rw [kept_of_ne_nil fun hnone => hshows (.inl hnone), outline, Option.map_eq_none_iff]
  refine lookupKeys_keepPaths_eq_none hkeys (fun shown hshown hbehind => hshows (.inr ⟨shown, hshown, hbehind⟩))
    fun shown hshown hway => ?_
  rw [← Option.not_isSome_iff_eq_none]
  exact fun hthere => hpasses ⟨shown, hshown, hway, hthere⟩

/-- Behind what is hidden nothing is shown. -/
theorem lookupKeys_apply_eq_none (hhides : projection.Hides keys) (h : Distinct document) :
    lookupKeys keys (projection.apply document) = none := by
  obtain ⟨hidden, hhidden, hbehind⟩ := hhides
  exact lookupKeys_dropPaths_eq_none hhidden hbehind (distinct_kept h projection)

/-- Everywhere but behind what is hidden the outline is that of what is kept. -/
theorem outline_apply (hhides : ¬ projection.Hides keys) (h : Distinct document) :
    outline keys (projection.apply document) = outline keys (projection.kept document) :=
  outline_dropPaths (fun hidden hhidden hbehind => hhides ⟨hidden, hhidden, hbehind⟩) (distinct_kept h projection)

/-- What a projected document has at the paths of a document, each case but the first where no earlier one is met. -/
structure AsAsked (projection : Projection) (document shown : Json) : Prop where
  /-- Behind what is hidden there is nothing. -/
  hidden : ∀ path, projection.Hides (pathKeys path) → shown.lookup path = none
  /-- What is shown is there if the document has it. -/
  there : ∀ path, ¬ projection.Hides (pathKeys path) → projection.Shows (pathKeys path) →
    (shown.lookup path).isSome = (document.lookup path).isSome
  /-- What is shown is what the document has, if nothing is hidden in it. -/
  same : ∀ path, ¬ projection.Hides (pathKeys path) → projection.Shows (pathKeys path) →
    (∀ hidden ∈ projection.excluded, ¬ pathKeys path <+: pathKeys hidden) → shown.lookup path = document.lookup path
  /-- On the way to what is shown, and only there, there is an object. -/
  passed : ∀ path, ¬ projection.Hides (pathKeys path) → ¬ projection.Shows (pathKeys path) →
    ((shown.lookup path).isSome = true ↔ projection.Passes document (pathKeys path)) ∧
      ∀ value, shown.lookup path = some value → value.isObj = true

/-- A path that is not hidden, and in which nothing is hidden, is apart from the member of the store and from all that is
hidden. -/
theorem apart_of_not_hides {path : String} (hhides : ¬ projection.Hides (pathKeys path))
    (hinside : ∀ hidden ∈ projection.excluded, ¬ pathKeys path <+: pathKeys hidden) :
    ∀ hidden ∈ storeIdField :: projection.excluded, Apart (pathKeys hidden) (pathKeys path) := by
  intro hidden hhidden
  have hbehind : ¬ pathKeys hidden <+: pathKeys path := fun hbehind => hhides ⟨hidden, hhidden, hbehind⟩
  refine ⟨hbehind, ?_⟩
  rcases List.mem_cons.1 hhidden with rfl | hhidden
  · -- Only one key leads to the member of the store, so nothing is on the way to it.
    intro hway
    obtain ⟨key, keys, hpath⟩ := exists_pathKeys path
    rw [pathKeys_storeIdField, hpath] at hway hbehind
    obtain ⟨rfl, hrest⟩ := List.cons_prefix_cons.1 hway
    obtain rfl := List.prefix_nil.1 hrest
    exact hbehind (List.prefix_refl _)
  · exact hinside hidden hhidden

/-- A projected document has what was asked for. -/
theorem asAsked (h : Distinct document) (projection : Projection) :
    AsAsked projection document (projection.apply document) where
  hidden path hhides := lookupKeys_apply_eq_none hhides h
  there path hhides hshows := by
    rw [Json.lookup, Json.lookup, ← isSome_outline, outline_apply hhides h, isSome_outline,
      lookupKeys_kept_of_shows hshows]
  same path hhides hshows hinside := lookup_apply ⟨hshows, apart_of_not_hides hhides hinside⟩ h
  passed path hhides hshows := by
    obtain ⟨key, keys, hpath⟩ := exists_pathKeys path
    have hne : pathKeys path ≠ [] := hpath ▸ List.cons_ne_nil key keys
    rw [Json.lookup, ← isSome_outline]
    by_cases hpasses : projection.Passes document (pathKeys path)
    · have houtline := (outline_apply hhides h).trans (outline_kept_of_passes hshows (.inr hpasses))
      rw [houtline]
      refine ⟨iff_of_true rfl hpasses, fun value hvalue => ?_⟩
      rw [outline, hvalue] at houtline
      exact leaf?_eq_none_iff.1 (Option.some.inj houtline)
    · have houtline := (outline_apply hhides h).trans (outline_kept_eq_none hshows (not_or.2 ⟨hne, hpasses⟩))
      rw [houtline]
      refine ⟨iff_of_false (by decide) hpasses, fun value hvalue => ?_⟩
      rw [outline, hvalue] at houtline
      exact absurd houtline (Option.some_ne_none _)

/-! ## Order and repetitions -/

/-- Whether two projections name the same paths, in whatever order and however often. -/
structure Alike (projection projection' : Projection) : Prop where
  included : ∀ path, path ∈ projection.included ↔ path ∈ projection'.included
  excluded : ∀ path, path ∈ projection.excluded ↔ path ∈ projection'.excluded

namespace Alike

variable {projection' : Projection}

theorem hides_iff (halike : projection.Alike projection') (keys : List String) :
    projection.Hides keys ↔ projection'.Hides keys := by
  simp only [Hides, List.mem_cons, halike.excluded]

theorem shows_iff (halike : projection.Alike projection') (keys : List String) :
    projection.Shows keys ↔ projection'.Shows keys := by
  simp only [Shows, List.eq_nil_iff_forall_not_mem, halike.included]

theorem passes_iff (halike : projection.Alike projection') (document : Json) (keys : List String) :
    projection.Passes document keys ↔ projection'.Passes document keys := by
  simp only [Passes, halike.included]

/-- Projections that name the same paths show documents of one outline. -/
theorem outline_apply_eq (halike : projection.Alike projection') (h : Distinct document) (keys : List String) :
    outline keys (projection.apply document) = outline keys (projection'.apply document) := by
  by_cases hhides : projection.Hides keys
  · rw [outline, outline, lookupKeys_apply_eq_none hhides h, lookupKeys_apply_eq_none ((halike.hides_iff keys).1 hhides) h]
  · rw [outline_apply hhides h, outline_apply (fun hhides' => hhides ((halike.hides_iff keys).2 hhides')) h]
    by_cases hshows : projection.Shows keys
    · rw [outline, outline, lookupKeys_kept_of_shows hshows, lookupKeys_kept_of_shows ((halike.shows_iff keys).1 hshows)]
    · have hshows' : ¬ projection'.Shows keys := fun h' => hshows ((halike.shows_iff keys).2 h')
      by_cases hpasses : keys = [] ∨ projection.Passes document keys
      · rw [outline_kept_of_passes hshows hpasses,
          outline_kept_of_passes hshows' (hpasses.imp_right (halike.passes_iff document keys).1)]
      · rw [outline_kept_eq_none hshows hpasses,
          outline_kept_eq_none hshows' fun h' => hpasses (h'.imp_right (halike.passes_iff document keys).2)]

end Alike

/-- A projected document has exactly what was asked for, and that up to the order of its members whatever the order of the
paths and however often they are named. -/
theorem apply_asAsked (h : Distinct document) (projection : Projection) :
    AsAsked projection document (projection.apply document) ∧
      ∀ projection', projection.Alike projection' →
        Shuffled (projection.apply document) (projection'.apply document) := by
  refine ⟨asAsked h projection, fun projection' halike => ?_⟩
  exact shuffled_of_outline (distinct_apply h projection) (distinct_apply h projection') (halike.outline_apply_eq h)

/-- A document with two objects in it. -/
def nested : Json :=
  .obj [(storeIdField, .ofNat 9), ("a", .obj [("b", .ofNat 1), ("c", .ofNat 2)]), ("e", .ofNat 3),
    ("f", .obj [("g", .ofNat 4), ("h", .ofNat 5)])]

theorem distinct_nested : nested.Distinct := by
  refine distinct_obj_iff.2 ⟨by decide, fun key value hvalue => ?_⟩
  have hentry := Members.mem_of_get? hvalue
  simp only [List.mem_cons, Prod.mk.injEq, List.not_mem_nil, or_false] at hentry
  rcases hentry with ⟨-, rfl⟩ | ⟨-, rfl⟩ | ⟨-, rfl⟩ | ⟨-, rfl⟩
  · exact distinct_of_not_isObj (by decide)
  · exact distinct_of_isFlat (by decide)
  · exact distinct_of_not_isObj (by decide)
  · exact distinct_of_isFlat (by decide)

/-- Shows all of one object but a part of it, a part of the other, and nothing of what is no object. -/
def parts : Projection :=
  ⟨["a.b", "a", "f.g", "e.x"], ["a.c"]⟩

/-- The parts of the document that are shown and hidden, and the same when the paths are named in another order and again. -/
theorem apply_asAsked_nested :
    (parts.apply nested).lookup "a.c" = none ∧ ((parts.apply nested).lookup "a").isSome = true ∧
      (parts.apply nested).lookup "a.b" = nested.lookup "a.b" ∧ ((parts.apply nested).lookup "f").isSome = true ∧
      ((parts.apply nested).lookup "e").isSome = false ∧
      Shuffled (parts.apply nested) (apply ⟨["f.g", "a", "e.x", "a.b", "a"], ["a.c", "a.c"]⟩ nested) := by
  obtain ⟨hshown, hshuffled⟩ := apply_asAsked distinct_nested parts
  refine ⟨hshown.hidden _ (by decide +kernel), ?_,
    hshown.same _ (by decide +kernel) (by decide +kernel) (by decide +kernel), ?_, ?_,
    hshuffled _ ⟨fun path => ?_, fun path => ?_⟩⟩
  · rw [hshown.there _ (by decide +kernel) (by decide +kernel)]
    decide +kernel
  · exact (hshown.passed _ (by decide +kernel) (by decide +kernel)).1.2 (by decide +kernel)
  · rw [Bool.eq_false_iff, Ne, (hshown.passed _ (by decide +kernel) (by decide +kernel)).1]
    decide +kernel
  · simp only [parts, List.mem_cons, List.not_mem_nil, or_false]
    tauto
  · simp [parts]

end SheetQuery.Query.Projection
