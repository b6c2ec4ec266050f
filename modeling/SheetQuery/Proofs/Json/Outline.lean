import SheetQuery.Proofs.Json.Path

/-!
# Outlines

What keys lead to in a document, of an object only that it is one. Taking a value out leaves the outline as it is everywhere
but behind the keys that lead to the value, though the objects on the way to it are not the same any more. And documents
without doubled keys that have one outline are the same but for the order of their members (`shuffled_of_outline`).
-/

namespace SheetQuery.Json

/-! ## Outlines of changed documents -/

/-- The value, unless it is an object. -/
def leaf? : Json → Option Json
  | .obj _ => none
  | other => some other

/-- What keys lead to, of an object only that it is one. -/
def outline (keys : List String) (document : Json) : Option (Option Json) :=
  (lookupKeys keys document).map leaf?

theorem leaf?_eq_none_iff {value : Json} : value.leaf? = none ↔ value.isObj = true := by
  cases value <;> simp [leaf?, isObj]

theorem eq_of_leaf? {value leaf : Json} (h : value.leaf? = some leaf) : value = leaf := by
  cases value with
  | obj members => nomatch h
  | _ => exact Option.some.inj h

/-- Keys lead to something if the outline has something there. -/
theorem isSome_outline (keys : List String) (document : Json) :
    (outline keys document).isSome = (lookupKeys keys document).isSome :=
  Option.isSome_map

/-- The outline is that of the member of the first key. -/
theorem outline_cons_obj {key : String} {child : Json} {members : List (String × Json)}
    (h : Members.get? key members = some child) (keys : List String) :
    outline (key :: keys) (.obj members) = outline keys child := by
  rw [outline, lookupKeys_cons_obj, h]
  rfl

/-- Taking a value out of a value does not make it or unmake it an object. -/
theorem leaf?_removeKeys (keys : List String) (value : Json) : (removeKeys keys value).leaf? = value.leaf? := by
  cases keys with
  | nil => rfl
  | cons key keys => cases value <;> cases keys <;> rfl

/-- What leads part of the way to a value that is taken out leads to what is left of the object there. -/
theorem lookupKeys_removeKeys_append (keys : List String) {rest : List String} (hrest : rest ≠ []) (document : Json) :
    lookupKeys keys (removeKeys (keys ++ rest) document) = (lookupKeys keys document).map (removeKeys rest) := by
  induction keys generalizing document with
  | nil => rfl
  | cons key keys ih =>
    obtain ⟨next, others, hnext⟩ := List.exists_cons_of_ne_nil (List.append_ne_nil_of_right_ne_nil keys hrest)
    cases document with
    | obj members =>
      have hremoved : removeKeys (key :: (keys ++ rest)) (.obj members) =
          .obj (changeMember key (removeKeys (keys ++ rest)) members) := by
        rw [hnext]
        rfl
      rw [List.cons_append, hremoved, lookupKeys_cons_obj, get?_changeMember, if_pos rfl, lookupKeys_cons_obj]
      cases Members.get? key members with
      | none => rfl
      | some child => exact ih child
    | _ => rw [List.cons_append, hnext]; rfl

/-- Behind what is taken out nothing is left. -/
theorem lookupKeys_removeKeys_of_prefix {keys others : List String} (hkeys : keys ≠ []) (hbehind : keys <+: others)
    {document : Json} (h : Distinct document) : lookupKeys others (removeKeys keys document) = none := by
  obtain ⟨rest, rfl⟩ := hbehind
  obtain ⟨key, keys, rfl⟩ := List.exists_cons_of_ne_nil hkeys
  rw [lookupKeys_append, lookupKeys_removeKeys_self h]
  rfl

/-- Everywhere but behind what is taken out the outline stays as it is. -/
theorem outline_removeKeys {keys others : List String} (hbehind : ¬ keys <+: others) {document : Json}
    (h : Distinct document) : outline others (removeKeys keys document) = outline others document := by
  rw [outline, outline]
  by_cases hway : others <+: keys
  · -- What is left there is an object if it was one before, though not the same.
    obtain ⟨rest, rfl⟩ := hway
    have hrest : rest ≠ [] := by
      rintro rfl
      rw [List.append_nil] at hbehind
      exact hbehind (List.prefix_refl others)
    rw [lookupKeys_removeKeys_append others hrest, Option.map_map]
    exact congrArg (Option.map · _) (funext (leaf?_removeKeys rest))
  · rw [lookupKeys_removeKeys_of_apart h ⟨hbehind, hway⟩]

/-- Putting a value in changes nothing that keys lead to which neither lead through it nor are on the way to it. -/
theorem lookupKeys_insertKeys_of_apart {keys others : List String} (hapart : Apart keys others) (value document : Json) :
    lookupKeys others (insertKeys value keys document) = lookupKeys others document := by
  induction keys generalizing others document with
  | nil => exact absurd List.nil_prefix hapart.1
  | cons key keys ih =>
    cases others with
    | nil => exact absurd List.nil_prefix hapart.2
    | cons first others =>
      cases document with
      | obj members =>
        rw [lookupKeys_insertKeys_obj]
        split
        · rename_i hk
          have hrest := apart_cons_iff.1 hapart hk
          obtain ⟨next, keys, rfl⟩ := List.exists_cons_of_ne_nil fun e : keys = [] => hrest.1 (e ▸ List.nil_prefix)
          obtain ⟨other, others, rfl⟩ := List.exists_cons_of_ne_nil fun e : others = [] => hrest.2 (e ▸ List.nil_prefix)
          rw [putChild_cons, ih hrest, lookupKeys_cons_obj, ← hk]
          cases Members.get? key members <;> rfl
        · rfl
      | _ => cases keys <;> rfl

/-! ## Documents of one outline -/

/-- Whether two values are the same but for the order of the members of objects. -/
inductive Shuffled : Json → Json → Prop
  | same (value : Json) : Shuffled value value
  | obj {members others : List (String × Json)} (keys : (Members.keys members).Perm (Members.keys others))
      (values : ∀ key value other, Members.get? key members = some value → Members.get? key others = some other →
        Shuffled value other) : Shuffled (.obj members) (.obj others)

/-- A key is there if the outline has something behind it. -/
theorem mem_keys_iff_outline {key : String} {members : List (String × Json)} :
    key ∈ Members.keys members ↔ (outline [key] (.obj members)).isSome = true := by
  rw [isSome_outline, lookupKeys_singleton, get?, Option.isSome_iff_ne_none, Ne, Members.get?_eq_none_iff, not_not]

/-- Documents without doubled keys that have one outline are the same but for the order of their members. -/
theorem shuffled_of_outline {a b : Json} (ha : Distinct a) (hb : Distinct b)
    (h : ∀ keys, outline keys a = outline keys b) : Shuffled a b := by
  -- The induction is on the size: the members are in a list, and each is smaller than the object.
  induction hsize : sizeOf a using Nat.strongRecOn generalizing a b with
  | ind size ih =>
    have hroot : a.leaf? = b.leaf? := Option.some.inj (h [])
    cases hleaf : a.leaf? with
    | some leaf =>
      rw [eq_of_leaf? hleaf, eq_of_leaf? (hroot.symm.trans hleaf)]
      exact .same leaf
    | none =>
      obtain ⟨members, rfl⟩ := exists_of_isObj (leaf?_eq_none_iff.1 hleaf)
      obtain ⟨others, rfl⟩ := exists_of_isObj (leaf?_eq_none_iff.1 (hroot.symm.trans hleaf))
      obtain ⟨hnodup, hvalues⟩ := distinct_obj_iff.1 ha
      obtain ⟨hnodup', hvalues'⟩ := distinct_obj_iff.1 hb
      refine .obj ((List.perm_ext_iff_of_nodup hnodup hnodup').2 fun key => ?_) fun key value other hvalue hother => ?_
      · rw [mem_keys_iff_outline, mem_keys_iff_outline, h]
      · have hentry := List.sizeOf_lt_of_mem (Members.mem_of_get? hvalue)
        have hsmaller : sizeOf value < size := by
          simp only [Prod.mk.sizeOf_spec, Json.obj.sizeOf_spec] at hentry hsize
          omega
        refine ih _ hsmaller (hvalues key value hvalue) (hvalues' key other hother) (fun keys => ?_) rfl
        rw [← outline_cons_obj hvalue, ← outline_cons_obj hother, h]

end SheetQuery.Json
