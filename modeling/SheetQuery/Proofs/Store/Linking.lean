import SheetQuery.Proofs.Store.Exposure

/-!
# Primary links

A group of fire modes is answered with its primary links, those that have its number and the index zero, and each of these
with the groups that have this number. The number is looked for twice, in the group as it is shown and in the link as it is
attached. Where it is an integer, and the plan keeps it, both lead back to what is stored, so a group is among those that its
own links lead to (`run_linked`).
-/

namespace SheetQuery

open Query

/-- The two zeros are the numbers in the middle. -/
theorem Decimal.Finite.place_eq_zero_iff {f : Decimal.FloatFormat} (x : Decimal.Finite f) : x.place = 0 ↔ x.rank = 0 := by
  unfold place
  split <;> omega

namespace Json

/-! ## Integers under a key -/

/-- The integer under a key, if there is one. -/
def intAt? (key : String) (document : Json) : Option Int :=
  match document.get? key with
  | some (.num (.int i _)) => some i
  | _ => none

/-- Whether this is the number zero: the integer, or one of the two zeros of floating point. -/
def isZero : Json → Bool
  | .num (.int i _) => i == 0
  | .num (.float x) => x.rank == 0
  | _ => false

variable {key : String} {document : Json}

theorem intAt?_eq_some_iff {i : Int} :
    document.intAt? key = some i ↔ ∃ fits, document.get? key = some (.num (.int i fits)) := by
  unfold intAt?
  constructor
  · intro h
    split at h
    · rename_i j fits hget
      obtain rfl := Option.some.inj h
      exact ⟨fits, hget⟩
    · cases h
  · rintro ⟨fits, hget⟩
    rw [hget]

/-- What has an integer under a key is an object. -/
theorem isObj_of_intAt? (h : (document.intAt? key).isSome = true) : document.isObj = true := by
  obtain ⟨i, hi⟩ := Option.isSome_iff_exists.1 h
  obtain ⟨fits, hget⟩ := intAt?_eq_some_iff.1 hi
  cases document with
  | obj members => rfl
  | _ => simp [get?] at hget

theorem intAt?_congr {other : Json} (h : document.get? key = other.get? key) : document.intAt? key = other.intAt? key := by
  rw [intAt?, intAt?, h]

theorem get?_dropMember_of_ne (h : Distinct document) {other : String} (hne : key ≠ other) :
    (document.dropMember key).get? other = document.get? other := by
  cases document with
  | obj members => rw [dropMember, get?, get?, Members.get?_remove (distinct_obj_iff.1 h).1, if_neg hne]
  | _ => rfl

theorem get?_setMember_self (hobj : document.isObj = true) (value : Json) :
    (document.setMember key value).get? key = some value := by
  obtain ⟨members, rfl⟩ := exists_of_isObj hobj
  rw [setMember, get?, Members.get?_insert, if_pos rfl]

end Json

open Json

namespace Query

/-- A value that is no object is shown as it is where the keys that lead to it are shown and not hidden. -/
theorem Projection.lookupKeys_apply_of_leaf {projection : Projection} {keys : List String}
    (hshows : projection.Shows keys) (hhides : ¬ projection.Hides keys) {document value : Json} (h : Distinct document)
    (hvalue : lookupKeys keys document = some value) (hleaf : value.isObj = false) :
    lookupKeys keys (projection.apply document) = some value := by
  have houtline := outline_apply hhides h
  rw [outline, outline, lookupKeys_kept_of_shows hshows, hvalue] at houtline
  obtain ⟨shown, hshown, hsame⟩ := Option.map_eq_some_iff.1 houtline
  have hvalue : value.leaf? = some value := by
    cases value with
    | obj members => simp [isObj] at hleaf
    | _ => rfl
  rw [hshown, eq_of_leaf? (hsame.trans hvalue)]

namespace Enrichment

/-! ## Keys of links -/

/-- The index of a primary link is the number zero. -/
theorem sameKey_indexJson (actual : Option Json) : sameKey actual fireGroup.indexJson = actual.any isZero := by
  have hindex : fireGroup.indexJson = .num (.int 0 (by decide)) := rfl
  rw [sameKey, hindex]
  cases actual with
  | none => rfl
  | some value =>
    cases value with
    | num n =>
      rw [Bool.eq_iff_iff]
      cases n with
      | int i _ => simp [compareScalars, Number.compare, isZero]
      | float x =>
        have hzero : roundedPlace 0 = 0 := by decide +kernel
        simp [compareScalars, Number.compare, Number.place, isZero, hzero, x.place_eq_zero_iff]
    | null | bool | str | arr | obj => rfl

/-- Integers are the same key when they are equal. -/
theorem sameKey_get? {key key' : String} {a b : Json} (ha : (a.intAt? key).isSome = true)
    (hb : (b.intAt? key').isSome = true) :
    sameKey (a.get? key) ((b.get? key').getD .null) = (a.intAt? key == b.intAt? key') := by
  obtain ⟨i, hi⟩ := Option.isSome_iff_exists.1 ha
  obtain ⟨j, hj⟩ := Option.isSome_iff_exists.1 hb
  obtain ⟨fits, hgetA⟩ := intAt?_eq_some_iff.1 hi
  obtain ⟨fits', hgetB⟩ := intAt?_eq_some_iff.1 hj
  rw [sameKey, hgetA, hgetB, hi, hj, Bool.eq_iff_iff]
  simp [compareScalars, Number.compare]

end Enrichment

end Query

namespace Store

variable {store : Store} {plan : Plan}

/-! ## Linked groups -/

/-- The number of a group of fire modes, as the group has it and its links have it. -/
def groupId (document : Json) : Option Int :=
  document.intAt? "fire_group_id"

/-- Whether a link is a primary one of a group: it has the number of the group and the index zero. -/
def isPrimaryOf (group link : Json) : Bool :=
  groupId link == groupId group && (link.get? "fire_mode_index").any isZero

/-- A stored link as it is attached: with its own members, but for that of the store, and with all groups of its number. -/
structure AttachedLink (groups : List Json) (stored attached : Json) : Prop where
  kept : ∀ key, key ≠ storeIdField → key ≠ "fire_mode_to_fire_group" → attached.get? key = stored.get? key
  bare : attached.get? storeIdField = none
  nested : attached.get? "fire_mode_to_fire_group" =
    some (.arr (groups.filter fun group => groupId group == groupId stored))

/-- A group with its primary links, each once and in the order of the store. -/
structure Linked (store : Store) (projection : Projection) (shown document : Json) : Prop where
  kept : ∀ key, key ≠ "fire_group_to_fire_mode" → document.get? key = shown.get? key
  links : ∃ attached, document.get? "fire_group_to_fire_mode" = some (.arr attached) ∧
    List.Forall₂ (AttachedLink (store.documents "fire_group"))
      ((store.documents "fire_group_to_fire_mode").filter (isPrimaryOf shown)) attached
  /-- The group is shown from a stored one, which is among those that each of its links leads to. -/
  original : ∃ stored ∈ store.documents "fire_group", shown = projection.apply stored ∧
    ∀ link ∈ document.itemsAt "fire_group_to_fire_mode", stored ∈ link.itemsAt "fire_mode_to_fire_group"

/-- Where there are no links, none is attached. -/
theorem Linked.get?_of_missing {projection : Projection} {shown document : Json} (h : Linked store projection shown document)
    (hmissing : store.find? "fire_group_to_fire_mode" = none) :
    document.get? "fire_group_to_fire_mode" = some (.arr []) := by
  obtain ⟨attached, hget, hattached⟩ := h.links
  have hnone : store.documents "fire_group_to_fire_mode" = [] := by
    rw [Store.documents, hmissing]
    rfl
  rw [hnone, List.filter_nil, List.forall₂_nil_left_iff] at hattached
  rw [hget, hattached]

/-- A link is attached with the groups of its number. -/
theorem attachedLink_fireGroup {groups : List Json} (hgroups : ∀ group ∈ groups, (groupId group).isSome = true)
    {link : Json} (h : link.Distinct) (hlink : (groupId link).isSome = true) :
    AttachedLink groups link (Enrichment.fireGroup.attachedLink groups link) := by
  have hid : groupId (link.dropMember storeIdField) = groupId link := intAt?_congr (get?_dropMember_of_ne h (by decide))
  refine ⟨?_, (Enrichment.attachedLink_bare h (isObj_of_intAt? hlink) groups).1, ?_⟩
  · intro key hstoreId hnested
    exact (get?_setMember_of_ne (Ne.symm hnested) _ _).trans (get?_dropMember_of_ne h (Ne.symm hstoreId))
  · rw [← hid] at hlink ⊢
    have hgroup : ∀ group ∈ groups, Enrichment.sameKey (group.get? "fire_group_id")
        (Enrichment.fireGroup.keyOf (link.dropMember storeIdField)) =
          (groupId group == groupId (link.dropMember storeIdField)) := by
      intro group hmem
      exact Enrichment.sameKey_get? (hgroups group hmem) hlink
    rw [← List.filter_congr hgroup]
    exact get?_setMember_self (isObj_of_intAt? hlink) _

/-- The links that are attached to a group are its primary ones. -/
theorem isLink_eq_isPrimaryOf {group link : Json} (hgroup : (groupId group).isSome = true)
    (hlink : (groupId link).isSome = true) :
    Enrichment.fireGroup.isLink (Enrichment.fireGroup.keyOf group) link = isPrimaryOf group link := by
  have hid : Enrichment.sameKey (link.get? "fire_group_id") (Enrichment.fireGroup.keyOf group) =
      (groupId link == groupId group) := Enrichment.sameKey_get? hlink hgroup
  rw [isPrimaryOf, ← hid, ← Enrichment.sameKey_indexJson]
  rfl

/-- A shown group has the number of the stored one. -/
theorem groupId_apply {projection : Projection} (hshows : projection.Shows (pathKeys "fire_group_id"))
    (hhides : ¬ projection.Hides (pathKeys "fire_group_id")) {group : Json} (h : group.Distinct)
    (hgroup : (groupId group).isSome = true) : groupId (projection.apply group) = groupId group := by
  have hkeys : pathKeys "fire_group_id" = ["fire_group_id"] := by decide
  obtain ⟨i, hi⟩ := Option.isSome_iff_exists.1 hgroup
  obtain ⟨fits, hget⟩ := intAt?_eq_some_iff.1 hi
  rw [hkeys] at hshows hhides
  rw [← lookupKeys_singleton] at hget
  have hshown := Projection.lookupKeys_apply_of_leaf hshows hhides h hget rfl
  rw [lookupKeys_singleton] at hshown hget
  exact intAt?_congr (hshown.trans hget.symm)

/-- A shown group is given its primary links. -/
theorem linked_apply {projection : Projection} (hshows : projection.Shows (pathKeys "fire_group_id"))
    (hhides : ¬ projection.Hides (pathKeys "fire_group_id")) (hstore : store.Distinct)
    (hgroups : ∀ group ∈ store.documents "fire_group", (groupId group).isSome = true)
    (hlinks : ∀ link ∈ store.documents "fire_group_to_fire_mode", (groupId link).isSome = true)
    {stored : Json} (hstored : stored ∈ store.documents "fire_group") :
    Linked store projection (projection.apply stored)
      (Enrichment.fireGroup.apply (store.documents "fire_group_to_fire_mode") (store.documents "fire_group")
        (projection.apply stored)) := by
  have hid := groupId_apply hshows hhides (hstore.of_documents _ stored hstored) (hgroups stored hstored)
  have hshown : (groupId (projection.apply stored)).isSome = true := hid ▸ hgroups stored hstored
  have hprimary : (store.documents "fire_group_to_fire_mode").filter
      (Enrichment.fireGroup.isLink (Enrichment.fireGroup.keyOf (projection.apply stored))) =
        (store.documents "fire_group_to_fire_mode").filter (isPrimaryOf (projection.apply stored)) :=
    List.filter_congr fun link hlink => isLink_eq_isPrimaryOf hshown (hlinks link hlink)
  refine ⟨?_, ⟨_, get?_setMember_self (isObj_of_intAt? hshown) _, ?_⟩, stored, hstored, rfl, ?_⟩
  · intro key hkey
    exact get?_setMember_of_ne (Ne.symm hkey) _ _
  · rw [Enrichment.attachments, hprimary, List.forall₂_map_right_iff, List.forall₂_same]
    intro link hlink
    have hmem := (List.mem_filter.1 hlink).1
    exact attachedLink_fireGroup hgroups (hstore.of_documents _ link hmem) (hlinks link hmem)
  · intro link hlink
    obtain ⟨kept, hkept, hislink, rfl⟩ := Enrichment.exists_link_of_mem hlink
    have hattached := attachedLink_fireGroup hgroups (hstore.of_documents _ kept hkept) (hlinks kept hkept)
    rw [isLink_eq_isPrimaryOf hshown (hlinks kept hkept), isPrimaryOf, Bool.and_eq_true, beq_iff_eq, hid] at hislink
    simp [itemsAt, hattached.nested, hstored, hislink.1]

/-- A plan for groups of fire modes that shows their numbers gives each group of its page its primary links and changes
nothing else. It fails like the plan without links. -/
theorem run_linked [PatternEngine] (hcollection : plan.collection = "fire_group") (henrichment : plan.enrichment = some .fireGroup)
    (hshows : plan.projection.Shows (pathKeys "fire_group_id"))
    (hhides : ¬ plan.projection.Hides (pathKeys "fire_group_id"))
    (hstore : store.Distinct) (hgroups : ∀ group ∈ store.documents "fire_group", (groupId group).isSome = true)
    (hlinks : ∀ link ∈ store.documents "fire_group_to_fire_mode", (groupId link).isSome = true) :
    (∀ error, store.run plan = .error error ↔ store.run plan.unenriched = .error error) ∧
      ∀ shown, store.run plan.unenriched = .ok shown → ∃ documents, store.run plan = .ok documents ∧
        List.Forall₂ (Linked store plan.projection) shown documents ∧
        (store.find? "fire_group_to_fire_mode" = none →
          ∀ document ∈ documents, document.get? "fire_group_to_fire_mode" = some (.arr [])) := by
  rcases run_error_or store plan with ⟨error, herror⟩ | ⟨collection, conditions, hf, hc⟩
  · rw [herror plan rfl rfl, herror plan.unenriched rfl rfl]
    simp
  · have hplain : store.run plan.unenriched = .ok (page plan (select plan conditions collection)) :=
      run_eq plan.unenriched hf hc
    have hrun : store.run plan = .ok ((page plan (select plan conditions collection)).map (Enrichment.fireGroup.apply
        (store.documents "fire_group_to_fire_mode") (store.documents "fire_group"))) := by
      rw [run_eq plan hf hc, attach, henrichment]
      rfl
    have hlinked : ∀ shown ∈ page plan (select plan conditions collection), Linked store plan.projection shown
        (Enrichment.fireGroup.apply (store.documents "fire_group_to_fire_mode") (store.documents "fire_group") shown) := by
      intro shown hshown
      obtain ⟨stored, hstored, ⟨-, rfl⟩ | ⟨enrichment, hsome, -⟩⟩ := exists_stored_of_run hplain hshown
      · rw [Plan.unenriched, hcollection] at hstored
        exact linked_apply hshows hhides hstore hgroups hlinks hstored
      · simp [Plan.unenriched] at hsome
    refine ⟨?_, ?_⟩
    · simp [hrun, hplain]
    · intro shown hshown
      obtain rfl := Except.ok.inj (hplain.symm.trans hshown)
      refine ⟨_, hrun, List.forall₂_map_right_iff.2 (List.forall₂_same.2 hlinked), ?_⟩
      intro hmissing document hdocument
      obtain ⟨shown, hshown, rfl⟩ := List.mem_map.1 hdocument
      exact (hlinked shown hshown).get?_of_missing hmissing

/-- The group has its link, and the link has the group. -/
theorem run_linked_identified :
    (∀ group ∈ identified.documents "fire_group", (groupId group).isSome = true) ∧
      (∀ link ∈ identified.documents "fire_group_to_fire_mode", (groupId link).isSome = true) ∧
      ∃ documents, identified.run fireGroupPlan = .ok documents ∧
        List.Forall₂ (Linked identified .whole) [.obj [("fire_group_id", .ofNat 7)]] documents := by
  have hgroups : ∀ group ∈ identified.documents "fire_group", (groupId group).isSome = true := by decide +kernel
  have hlinks : ∀ link ∈ identified.documents "fire_group_to_fire_mode", (groupId link).isSome = true := by
    decide +kernel
  have hplain : identified.run fireGroupPlan.unenriched = .ok [.obj [("fire_group_id", .ofNat 7)]] := rfl
  have hshows : fireGroupPlan.projection.Shows (pathKeys "fire_group_id") := by decide
  have hhides : ¬ fireGroupPlan.projection.Hides (pathKeys "fire_group_id") := by decide
  obtain ⟨-, hpage⟩ := run_linked (by rfl) (by rfl) hshows hhides distinct_identified hgroups hlinks
  obtain ⟨documents, hrun, hlinked, -⟩ := hpage _ hplain
  exact ⟨hgroups, hlinks, documents, hrun, hlinked⟩

end Store

end SheetQuery
