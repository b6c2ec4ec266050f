import SheetQuery.Json.Path
import SheetQuery.Proofs.Json.Members

/-!
# Values at paths

What paths lead to after a value has been put at one of them or taken out. Two facts carry all others. A document that is
put together from values of another document, each at its own path, never has anything else at a path than the other, so
that putting a value in disturbs none that is already there. And in a document without doubled keys a value that has been
taken out does not come back when others are taken out.
-/

namespace SheetQuery.Json

/-! ## Documents without doubled keys -/

theorem lookupKeys_cons_obj (key : String) (keys : List String) (members : List (String × Json)) :
    lookupKeys (key :: keys) (.obj members) = (Members.get? key members).bind (lookupKeys keys) :=
  rfl

/-- One key leads to the member of that key. -/
theorem lookupKeys_singleton (key : String) (document : Json) : lookupKeys [key] document = document.get? key :=
  Option.bind_fun_some _

/-- Only in an object do keys lead further. -/
theorem exists_obj_of_lookupKeys {key : String} {keys : List String} {document value : Json}
    (h : lookupKeys (key :: keys) document = some value) :
    ∃ members child, document = .obj members ∧ Members.get? key members = some child ∧
      lookupKeys keys child = some value := by
  cases document with
  | obj members =>
    obtain ⟨child, hchild, hvalue⟩ := Option.bind_eq_some_iff.1 h
    exact ⟨members, child, rfl, hchild, hvalue⟩
  | _ => nomatch h

/-- Keys lead on from what the keys before them lead to. -/
theorem lookupKeys_append (keys others : List String) (document : Json) :
    lookupKeys (keys ++ others) document = (lookupKeys keys document).bind (lookupKeys others) := by
  induction keys generalizing document with
  | nil => rfl
  | cons key keys ih =>
    rw [List.cons_append, lookupKeys, lookupKeys, Option.bind_assoc]
    exact congrArg (Option.bind _) (funext ih)

/-- Whether no object that keys lead to has a key twice. -/
def Distinct (document : Json) : Prop :=
  ∀ keys members, lookupKeys keys document = some (.obj members) → (Members.keys members).Nodup

theorem distinct_obj_iff {members : List (String × Json)} :
    Distinct (.obj members) ↔
      (Members.keys members).Nodup ∧ ∀ key value, Members.get? key members = some value → Distinct value := by
  constructor
  · intro h
    refine ⟨h [] members rfl, fun key value hvalue keys inner hinner => h (key :: keys) inner ?_⟩
    rw [lookupKeys_cons_obj, hvalue]
    exact hinner
  · rintro ⟨hnodup, hvalues⟩ keys inner hinner
    cases keys with
    | nil =>
      obtain rfl := Json.obj.inj (Option.some.inj hinner)
      exact hnodup
    | cons key keys =>
      rw [lookupKeys_cons_obj] at hinner
      obtain ⟨child, hchild, hinner⟩ := Option.bind_eq_some_iff.1 hinner
      exact hvalues key child hchild keys inner hinner

theorem distinct_empty : Distinct (.obj []) :=
  distinct_obj_iff.2 ⟨List.nodup_nil, fun _ _ h => nomatch h⟩

/-- Whether a value is an object. -/
def isObj : Json → Bool
  | .obj _ => true
  | _ => false

theorem exists_of_isObj {document : Json} (h : document.isObj = true) : ∃ members, document = .obj members := by
  cases document with
  | obj members => exact ⟨members, rfl⟩
  | _ => nomatch h

/-- What is no object has no doubled keys. -/
theorem distinct_of_not_isObj {value : Json} (h : value.isObj = false) : Distinct value := by
  intro keys inner hinner
  cases keys with
  | nil =>
    obtain rfl := Option.some.inj hinner
    nomatch h
  | cons key keys =>
    obtain ⟨members, child, rfl, -⟩ := exists_obj_of_lookupKeys hinner
    nomatch h

/-- An object without objects in it has no doubled keys but its own. -/
theorem distinct_of_flat {members : List (String × Json)} (hnodup : (Members.keys members).Nodup)
    (hflat : ∀ entry ∈ members, entry.2.isObj = false) : Distinct (.obj members) :=
  distinct_obj_iff.2 ⟨hnodup, fun _ _ hvalue => distinct_of_not_isObj (hflat _ (Members.mem_of_get? hvalue))⟩

/-- Whether this is an object that has no key twice and no objects in it. -/
def isFlat : Json → Bool
  | .obj members => decide (Members.keys members).Nodup && members.all fun entry => !entry.2.isObj
  | _ => false

theorem distinct_of_isFlat {document : Json} (h : document.isFlat = true) : Distinct document := by
  cases document with
  | obj members =>
    rw [isFlat, Bool.and_eq_true, decide_eq_true_iff, List.all_eq_true] at h
    exact distinct_of_flat h.1 fun entry hentry => by simpa using h.2 entry hentry
  | _ => nomatch h

/-- What keys lead to has no doubled keys either. -/
theorem Distinct.of_lookupKeys {document value : Json} (h : Distinct document) {keys : List String}
    (hvalue : lookupKeys keys document = some value) : Distinct value := by
  induction keys generalizing document with
  | nil =>
    obtain rfl := Option.some.inj hvalue
    exact h
  | cons key keys ih =>
    obtain ⟨members, child, rfl, hchild, hrest⟩ := exists_obj_of_lookupKeys hvalue
    exact ih ((distinct_obj_iff.1 h).2 key child hchild) hrest

/-! ## Putting values in -/

/-- What a member becomes when a value is put where keys lead from it: the value itself if no keys are left. -/
def putChild (value : Json) : List String → Json → Json
  | [], _ => value
  | keys, child => insertKeys value keys child

theorem putChild_cons (value : Json) (key : String) (keys : List String) (child : Json) :
    putChild value (key :: keys) child = insertKeys value (key :: keys) child :=
  rfl

/-- Putting a value into an object changes the member of the first key, whether it is the last key or not. -/
theorem insertKeys_cons_obj (value : Json) (key : String) (keys : List String) (members : List (String × Json)) :
    insertKeys value (key :: keys) (.obj members) =
      .obj (Members.update key (.obj []) (putChild value keys) members) := by
  cases keys with
  | nil => exact congrArg Json.obj (Members.insert_eq_update key value (.obj []) members)
  | cons next keys => rfl

/-- Putting a value into a member makes no key double. -/
theorem distinct_putChild {value : Json} (hv : Distinct value) {keys : List String} {document : Json}
    (h : Distinct document) : Distinct (putChild value keys document) := by
  induction keys generalizing document with
  | nil => exact hv
  | cons key keys ih =>
    cases document with
    | obj members =>
      obtain ⟨hnodup, hvalues⟩ := distinct_obj_iff.1 h
      rw [putChild_cons, insertKeys_cons_obj]
      refine distinct_obj_iff.2 ⟨Members.nodup_keys_update hnodup _ _ _, fun key' value' h' => ?_⟩
      rw [Members.get?_update] at h'
      split at h'
      · obtain rfl := Option.some.inj h'
        refine ih ?_
        cases hchild : Members.get? key members with
        | none => exact distinct_empty
        | some child => exact hvalues key child hchild
      · exact hvalues key' value' h'
    | _ => cases keys <;> exact h

/-- Putting a value in makes no key double. -/
theorem distinct_insertKeys {value : Json} (hv : Distinct value) {keys : List String} {document : Json}
    (h : Distinct document) : Distinct (insertKeys value keys document) := by
  cases keys with
  | nil => exact h
  | cons key keys =>
    rw [← putChild_cons]
    exact distinct_putChild hv h

/-- Putting a value where it already is changes nothing. -/
theorem putChild_eq_self {value : Json} {keys : List String} {document : Json}
    (h : lookupKeys keys document = some value) : putChild value keys document = document := by
  induction keys generalizing document with
  | nil => exact (Option.some.inj h).symm
  | cons key keys ih =>
    obtain ⟨members, child, rfl, hchild, hrest⟩ := exists_obj_of_lookupKeys h
    rw [putChild_cons, insertKeys_cons_obj, Members.update_eq_self hchild (ih hrest)]

theorem insertKeys_eq_self {value : Json} {keys : List String} {document : Json}
    (h : lookupKeys keys document = some value) : insertKeys value keys document = document := by
  cases keys with
  | nil => rfl
  | cons key keys => exact putChild_eq_self h

/-- Whether a document is put together from values of another, each at its own path. -/
inductive Within : Json → Json → Prop
  | same (document : Json) : Within document document
  | obj {members others : List (String × Json)}
      (there : ∀ key value, Members.get? key members = some value → ∃ other, Members.get? key others = some other)
      (within : ∀ key value other, Members.get? key members = some value → Members.get? key others = some other →
        Within value other) : Within (.obj members) (.obj others)

theorem Within.empty (members : List (String × Json)) : Within (.obj []) (.obj members) :=
  .obj (fun _ _ h => nomatch h) (fun _ _ _ h => nomatch h)

/-- Where keys lead further in a document, what is within it is an object, and so is what is within its members. -/
theorem Within.exists_obj {kept : Json} {members : List (String × Json)} (h : Within kept (.obj members)) :
    ∃ inner, kept = .obj inner ∧
      (∀ key value, Members.get? key inner = some value → ∃ other, Members.get? key members = some other) ∧
      ∀ key value other, Members.get? key inner = some value → Members.get? key members = some other →
        Within value other := by
  cases h with
  | same =>
    refine ⟨members, rfl, fun key value h => ⟨value, h⟩, fun key value other h h' => ?_⟩
    obtain rfl := Option.some.inj (h.symm.trans h')
    exact .same value
  | obj there within => exact ⟨_, rfl, there, within⟩

/-- What is within a member of an object, when what is within the object has no such member yet. -/
theorem Within.getD {key : String} {inner : List (String × Json)} {other value : Json} {keys : List String}
    (h : ∀ child, Members.get? key inner = some child → Within child other)
    (hvalue : lookupKeys keys other = some value) (hkeys : keys ≠ []) :
    Within ((Members.get? key inner).getD (.obj [])) other := by
  cases hchild : Members.get? key inner with
  | some child => exact h child hchild
  | none =>
    obtain ⟨next, keys, rfl⟩ := List.exists_cons_of_ne_nil hkeys
    obtain ⟨members, -, rfl, -⟩ := exists_obj_of_lookupKeys hvalue
    exact .empty members

/-- What is not there in a document is not there in what is within it. -/
theorem Within.lookupKeys_eq_none {kept document : Json} (h : Within kept document) {keys : List String}
    (hnone : lookupKeys keys document = none) : lookupKeys keys kept = none := by
  induction keys generalizing kept document with
  | nil => nomatch hnone
  | cons key keys ih =>
    cases h with
    | same => exact hnone
    | obj there within =>
      rename_i members others
      rw [lookupKeys_cons_obj] at hnone ⊢
      cases hvalue : Members.get? key members with
      | none => rfl
      | some value =>
        obtain ⟨other, hother⟩ := there key value hvalue
        rw [hother] at hnone
        exact ih (within key value other hvalue hother) hnone

/-- Putting a value of a document at its path keeps what is within the document within it. Nothing need be within it yet if
the value is the document itself. -/
theorem Within.putChild {kept document value : Json} {keys : List String} (h : keys ≠ [] → Within kept document)
    (hvalue : lookupKeys keys document = some value) : Within (putChild value keys kept) document := by
  induction keys generalizing kept document with
  | nil =>
    obtain rfl := Option.some.inj hvalue
    exact .same document
  | cons key keys ih =>
    obtain ⟨members, other, rfl, hother, hrest⟩ := exists_obj_of_lookupKeys hvalue
    obtain ⟨inner, rfl, there, within⟩ := (h (List.cons_ne_nil key keys)).exists_obj
    rw [putChild_cons, insertKeys_cons_obj]
    refine .obj (fun key' value' h' => ?_) (fun key' value' other' h' ho => ?_)
    · rw [Members.get?_update] at h'
      split at h'
      · rename_i hk
        exact ⟨other, hk ▸ hother⟩
      · exact there key' value' h'
    · rw [Members.get?_update] at h'
      split at h'
      · rename_i hk
        subst hk
        obtain rfl := Option.some.inj h'
        obtain rfl := Option.some.inj (hother.symm.trans ho)
        exact ih (.getD (fun child hchild => within key child other hchild hother) hrest) hrest
      · exact within key' value' other' h' ho

theorem Within.insertKeys {kept document value : Json} (h : Within kept document) {keys : List String}
    (hvalue : lookupKeys keys document = some value) : Within (insertKeys value keys kept) document := by
  cases keys with
  | nil => exact h
  | cons key keys => exact .putChild (fun _ => h) hvalue

/-- What keys lead to after a value has been put into an object: behind the first key of its path it is the changed member,
behind any other what it was. -/
theorem lookupKeys_insertKeys_obj (value : Json) (key first : String) (keys others : List String)
    (members : List (String × Json)) :
    lookupKeys (first :: others) (insertKeys value (key :: keys) (.obj members)) =
      if key = first then lookupKeys others (putChild value keys ((Members.get? key members).getD (.obj [])))
      else lookupKeys (first :: others) (.obj members) := by
  rw [insertKeys_cons_obj, lookupKeys_cons_obj, Members.get?_update]
  split <;> rfl

/-- A value of a document that has been put at its path is found there. -/
theorem Within.lookupKeys_putChild {kept document value : Json} {keys : List String}
    (h : keys ≠ [] → Within kept document) (hvalue : lookupKeys keys document = some value) :
    lookupKeys keys (Json.putChild value keys kept) = some value := by
  induction keys generalizing kept document with
  | nil => rfl
  | cons key keys ih =>
    obtain ⟨members, other, rfl, hother, hrest⟩ := exists_obj_of_lookupKeys hvalue
    obtain ⟨inner, rfl, -, within⟩ := (h (List.cons_ne_nil key keys)).exists_obj
    have hchild := ih (.getD (fun child hchild => within key child other hchild hother) hrest) hrest
    rw [putChild_cons, lookupKeys_insertKeys_obj, if_pos rfl]
    exact hchild

theorem Within.lookupKeys_insertKeys {kept document value : Json} (h : Within kept document) {key : String}
    {keys : List String} (hvalue : lookupKeys (key :: keys) document = some value) :
    lookupKeys (key :: keys) (Json.insertKeys value (key :: keys) kept) = some value :=
  Within.lookupKeys_putChild (fun _ => h) hvalue

/-- Putting a value of a document at its path disturbs no other value of the document that is already there. -/
theorem Within.lookupKeys_putChild_of_eq {kept document value other : Json} {keys others : List String}
    (h : keys ≠ [] → Within kept document) (hvalue : lookupKeys keys document = some value)
    (hother : lookupKeys others document = some other) (hkept : keys ≠ [] → lookupKeys others kept = some other) :
    lookupKeys others (Json.putChild value keys kept) = some other := by
  induction keys generalizing kept document others with
  | nil =>
    obtain rfl := Option.some.inj hvalue
    exact hother
  | cons key keys ih =>
    have hkept := hkept (List.cons_ne_nil key keys)
    cases others with
    | nil =>
      -- The whole document is there already, so the value is too.
      obtain rfl := Option.some.inj hother
      obtain rfl := Option.some.inj hkept
      rw [putChild_eq_self hvalue]
      rfl
    | cons first others =>
      obtain ⟨members, child, rfl, hchild, hrest⟩ := exists_obj_of_lookupKeys hvalue
      obtain ⟨inner, rfl, -, within⟩ := (h (List.cons_ne_nil key keys)).exists_obj
      rw [putChild_cons, lookupKeys_insertKeys_obj]
      by_cases hk : key = first
      · subst hk
        obtain ⟨_, found, heq, hfound, hfrest⟩ := exists_obj_of_lookupKeys hother
        obtain rfl := Json.obj.inj heq
        obtain ⟨_, old, heq, hold, hokept⟩ := exists_obj_of_lookupKeys hkept
        obtain rfl := Json.obj.inj heq
        obtain rfl := Option.some.inj (hchild.symm.trans hfound)
        rw [if_pos rfl, hold]
        exact ih (fun _ => within key old child hold hchild) hrest hfrest fun _ => hokept
      · rw [if_neg hk]
        exact hkept

theorem Within.lookupKeys_insertKeys_of_eq {kept document value other : Json} (h : Within kept document)
    {keys others : List String} (hvalue : lookupKeys keys document = some value)
    (hother : lookupKeys others document = some other) (hkept : lookupKeys others kept = some other) :
    lookupKeys others (Json.insertKeys value keys kept) = some other := by
  cases keys with
  | nil => exact hkept
  | cons key keys => exact Within.lookupKeys_putChild_of_eq (fun _ => h) hvalue hother fun _ => hkept

/-! ## Taking values out -/

theorem get?_changeMember (key key' : String) (change : Json → Json) (members : List (String × Json)) :
    Members.get? key' (changeMember key change members) =
      if key = key' then (Members.get? key members).map change else Members.get? key' members := by
  induction members with
  | nil => simp [changeMember, Members.get?]
  | cons first rest ih =>
    obtain ⟨k, v⟩ := first
    rw [changeMember]
    by_cases hk : k = key
    · subst hk
      rw [if_pos rfl, Members.get?, Members.get?, Members.get?, if_pos rfl]
      split <;> rfl
    · rw [if_neg hk, Members.get?, Members.get?, Members.get?, if_neg hk, ih]
      by_cases hk' : k = key'
      · have hne : key ≠ key' := fun e => hk (hk'.trans e.symm)
        rw [if_pos hk', if_pos hk', if_neg hne]
      · rw [if_neg hk', if_neg hk']

theorem keys_changeMember (key : String) (change : Json → Json) (members : List (String × Json)) :
    Members.keys (changeMember key change members) = Members.keys members := by
  induction members with
  | nil => rfl
  | cons first rest ih =>
    obtain ⟨k, v⟩ := first
    rw [changeMember]
    split
    · rfl
    · exact congrArg (k :: ·) ih

/-- A member that a change leaves as it is, or that is not there, is not changed. -/
theorem changeMember_eq_self {key : String} {change : Json → Json} {members : List (String × Json)}
    (h : ∀ value, Members.get? key members = some value → change value = value) :
    changeMember key change members = members := by
  induction members with
  | nil => rfl
  | cons first rest ih =>
    obtain ⟨k, v⟩ := first
    rw [changeMember]
    by_cases hk : k = key
    · rw [if_pos hk, h v (by rw [Members.get?, if_pos hk])]
    · rw [if_neg hk, ih fun value hvalue => h value (by rwa [Members.get?, if_neg hk])]

/-- Taking a value out makes no key double. -/
theorem distinct_removeKeys {keys : List String} {document : Json} (h : Distinct document) :
    Distinct (removeKeys keys document) := by
  induction keys generalizing document with
  | nil => exact h
  | cons key keys ih =>
    cases document with
    | obj members =>
      obtain ⟨hnodup, hvalues⟩ := distinct_obj_iff.1 h
      cases keys with
      | nil =>
        refine distinct_obj_iff.2 ⟨(Members.nodup_keys_remove hnodup key).1, fun key' value' h' => ?_⟩
        rw [Members.get?_remove hnodup] at h'
        split at h'
        · nomatch h'
        · exact hvalues key' value' h'
      | cons next keys =>
        refine distinct_obj_iff.2 ⟨?_, fun key' value' h' => ?_⟩
        · rwa [keys_changeMember]
        · rw [get?_changeMember] at h'
          split at h'
          · obtain ⟨child, hchild, rfl⟩ := Option.map_eq_some_iff.1 h'
            exact ih (hvalues key child hchild)
          · exact hvalues key' value' h'
    | _ => cases keys <;> exact h

/-- Taking out what is not there changes nothing. -/
theorem removeKeys_eq_self {keys : List String} {document : Json} (h : lookupKeys keys document = none) :
    removeKeys keys document = document := by
  induction keys generalizing document with
  | nil => nomatch h
  | cons key keys ih =>
    cases document with
    | obj members =>
      rw [lookupKeys_cons_obj, Option.bind_eq_none_iff] at h
      cases keys with
      | nil =>
        have hnone : Members.get? key members = none := by
          cases hget : Members.get? key members with
          | none => rfl
          | some value => nomatch h value hget
        exact congrArg Json.obj (Members.remove_eq_self (Members.get?_eq_none_iff.1 hnone))
      | cons next keys => exact congrArg Json.obj (changeMember_eq_self fun value hvalue => ih (h value hvalue))
    | _ => cases keys <;> rfl

/-- What is taken out is gone. -/
theorem lookupKeys_removeKeys_self {key : String} {keys : List String} {document : Json} (h : Distinct document) :
    lookupKeys (key :: keys) (removeKeys (key :: keys) document) = none := by
  induction keys generalizing key document with
  | nil =>
    cases document with
    | obj members =>
      have hget := Members.get?_remove (distinct_obj_iff.1 h).1 key key
      rw [if_pos rfl] at hget
      exact congrArg (Option.bind · (lookupKeys [])) hget
    | _ => rfl
  | cons next keys ih =>
    cases document with
    | obj members =>
      have hget := get?_changeMember key key (removeKeys (next :: keys)) members
      rw [if_pos rfl] at hget
      refine (congrArg (Option.bind · (lookupKeys (next :: keys))) hget).trans ?_
      cases hchild : Members.get? key members with
      | none => rfl
      | some child => exact ih ((distinct_obj_iff.1 h).2 key child hchild)
    | _ => rfl

/-- Whether neither of two lists of keys leads through the other. -/
def Apart (keys others : List String) : Prop :=
  ¬keys <+: others ∧ ¬others <+: keys

instance (keys others : List String) : Decidable (Apart keys others) :=
  inferInstanceAs (Decidable (_ ∧ _))

theorem apart_cons_iff {key first : String} {keys others : List String} :
    Apart (key :: keys) (first :: others) ↔ (key = first → Apart keys others) := by
  simp only [Apart, List.cons_prefix_cons, not_and]
  constructor
  · intro h hk
    exact ⟨h.1 hk, h.2 hk.symm⟩
  · intro h
    exact ⟨fun hk => (h hk).1, fun hk => (h hk.symm).2⟩

/-- Taking a value out changes nothing that keys lead to which neither lead through it nor are on the way to it. -/
theorem lookupKeys_removeKeys_of_apart {keys others : List String} {document : Json} (h : Distinct document)
    (hapart : Apart keys others) : lookupKeys others (removeKeys keys document) = lookupKeys others document := by
  induction keys generalizing others document with
  | nil => exact absurd (List.nil_prefix) hapart.1
  | cons key keys ih =>
    cases others with
    | nil => exact absurd (List.nil_prefix) hapart.2
    | cons first others =>
      rw [apart_cons_iff] at hapart
      cases document with
      | obj members =>
        obtain ⟨hnodup, hvalues⟩ := distinct_obj_iff.1 h
        cases keys with
        | nil =>
          have hk : key ≠ first := fun hk => (hapart hk).1 List.nil_prefix
          have hget := Members.get?_remove hnodup key first
          rw [if_neg hk] at hget
          exact congrArg (Option.bind · (lookupKeys others)) hget
        | cons next keys =>
          have hget := get?_changeMember key first (removeKeys (next :: keys)) members
          refine (congrArg (Option.bind · (lookupKeys others)) hget).trans ?_
          by_cases hk : key = first
          · subst hk
            rw [if_pos rfl, lookupKeys_cons_obj]
            cases hchild : Members.get? key members with
            | none => rfl
            | some child => exact ih (hvalues key child hchild) (hapart rfl)
          · rw [if_neg hk]
            rfl
      | _ => cases keys <;> rfl

/-- What is not there does not come back when something is taken out. -/
theorem lookupKeys_removeKeys_of_none {keys others : List String} {document : Json} (h : Distinct document)
    (hnone : lookupKeys others document = none) : lookupKeys others (removeKeys keys document) = none := by
  induction keys generalizing others document with
  | nil => exact hnone
  | cons key keys ih =>
    cases others with
    | nil => nomatch hnone
    | cons first others =>
      cases document with
      | obj members =>
        obtain ⟨hnodup, hvalues⟩ := distinct_obj_iff.1 h
        rw [lookupKeys_cons_obj] at hnone
        cases keys with
        | nil =>
          have hget := Members.get?_remove hnodup key first
          refine (congrArg (Option.bind · (lookupKeys others)) hget).trans ?_
          split
          · rfl
          · exact hnone
        | cons next keys =>
          have hget := get?_changeMember key first (removeKeys (next :: keys)) members
          refine (congrArg (Option.bind · (lookupKeys others)) hget).trans ?_
          by_cases hk : key = first
          · subst hk
            rw [if_pos rfl]
            cases hchild : Members.get? key members with
            | none => rfl
            | some child =>
              rw [hchild] at hnone
              exact ih (hvalues key child hchild) hnone
          · rw [if_neg hk]
            exact hnone
      | _ => cases keys <;> exact hnone

end SheetQuery.Json
