import Mathlib.Data.List.Nodup
import SheetQuery.Json.Members

/-!
# Members of objects

What is found under a key after members have been set, changed or taken out, and that no key comes to stand twice. A member
that is changed to what it is already stays as it is, and so does an object without the member that is taken out. Members that
are written one after the other stand in the order in which their keys were written first, with what was written last.
-/

namespace SheetQuery.Members

variable {α : Type}

/-! ## Keys -/

theorem get?_eq_none_iff {key : String} {members : Members α} : get? key members = none ↔ key ∉ members.keys := by
  induction members with
  | nil => simp [get?, keys]
  | cons first rest ih =>
    obtain ⟨k, v⟩ := first
    rw [get?, keys, List.map_cons, List.mem_cons, not_or]
    split
    · rename_i h
      exact ⟨fun e => (nomatch e), fun e => absurd h.symm e.1⟩
    · rename_i h
      rw [ih]
      exact ⟨fun e => ⟨fun e' => h e'.symm, e⟩, fun e => e.2⟩

/-- What is found under a key is a member. -/
theorem mem_of_get? {key : String} {value : α} {members : Members α} (h : get? key members = some value) :
    (key, value) ∈ members := by
  induction members with
  | nil => nomatch h
  | cons first rest ih =>
    obtain ⟨k, v⟩ := first
    rw [get?] at h
    split at h
    · rename_i hk
      obtain rfl := Option.some.inj h
      exact hk ▸ List.mem_cons_self
    · exact List.mem_cons_of_mem _ (ih h)

/-- Where no key stands twice, what is found under a key is its member. -/
theorem get?_eq_some_iff {members : Members α} (h : members.keys.Nodup) {key : String} {value : α} :
    get? key members = some value ↔ (key, value) ∈ members := by
  induction members with
  | nil => simp [get?]
  | cons first rest ih =>
    obtain ⟨k, v⟩ := first
    obtain ⟨hnew, hrest⟩ := List.nodup_cons.1 h
    rw [get?, List.mem_cons, Prod.mk.injEq]
    split
    · rename_i hk
      constructor
      · intro e
        exact .inl ⟨hk.symm, (Option.some.inj e).symm⟩
      · rintro (⟨-, rfl⟩ | hm)
        · rfl
        · exact absurd (List.mem_map_of_mem hm) (hk ▸ hnew)
    · rename_i hk
      rw [ih hrest]
      exact ⟨.inr, fun e => e.resolve_left fun e' => hk e'.1.symm⟩

/-! ## Setting and changing -/

/-- Setting a member is changing it to a value, whatever it was. -/
theorem insert_eq_update (key : String) (value default : α) (members : Members α) :
    insert key value members = update key default (fun _ => value) members := by
  induction members with
  | nil => rfl
  | cons first rest ih => rw [insert, update, ih]

theorem get?_update (key key' : String) (default : α) (change : α → α) (members : Members α) :
    get? key' (update key default change members) =
      if key = key' then some (change ((get? key members).getD default)) else get? key' members := by
  induction members with
  | nil => simp [update, get?]
  | cons first rest ih =>
    obtain ⟨k, v⟩ := first
    rw [update]
    by_cases hk : k = key
    · subst hk
      rw [if_pos rfl, get?, get?, get?, if_pos rfl]
      split <;> rfl
    · rw [if_neg hk, get?, get?, get?, if_neg hk, ih]
      by_cases hk' : k = key'
      · have hne : key ≠ key' := fun e => hk (hk'.trans e.symm)
        rw [if_pos hk', if_pos hk', if_neg hne]
      · rw [if_neg hk', if_neg hk']

theorem keys_update (key : String) (default : α) (change : α → α) (members : Members α) :
    (update key default change members).keys = if key ∈ members.keys then members.keys else members.keys ++ [key] := by
  induction members with
  | nil => rfl
  | cons first rest ih =>
    obtain ⟨k, v⟩ := first
    rw [update]
    by_cases hk : k = key
    · subst hk
      have hmem : k ∈ keys ((k, v) :: rest) := List.mem_cons_self
      rw [if_pos rfl, if_pos hmem]
      rfl
    · have hiff : key ∈ keys ((k, v) :: rest) ↔ key ∈ keys rest := by
        rw [keys, List.map_cons, List.mem_cons]
        exact or_iff_right fun e => hk e.symm
      rw [if_neg hk, keys, List.map_cons]
      change k :: keys (update key default change rest) = _
      rw [ih]
      by_cases hmem : key ∈ keys rest
      · rw [if_pos hmem, if_pos (hiff.2 hmem)]
        rfl
      · rw [if_neg hmem, if_neg fun e => hmem (hiff.1 e)]
        rfl

/-- No key comes to stand twice when a member is changed. -/
theorem nodup_keys_update {members : Members α} (h : members.keys.Nodup) (key : String) (default : α) (change : α → α) :
    (update key default change members).keys.Nodup := by
  rw [keys_update]
  split
  · exact h
  · rename_i hnew
    rw [List.nodup_append]
    refine ⟨h, List.nodup_singleton _, fun a ha b hb e => hnew ?_⟩
    rw [List.mem_singleton.1 hb] at e
    exact e ▸ ha

/-- A member that is changed to what it is stays as it is. -/
theorem update_eq_self {key : String} {value default : α} {change : α → α} {members : Members α}
    (h : get? key members = some value) (hc : change value = value) : update key default change members = members := by
  induction members with
  | nil => nomatch h
  | cons first rest ih =>
    obtain ⟨k, v⟩ := first
    rw [get?] at h
    rw [update]
    split at h
    · rename_i hk
      obtain rfl := Option.some.inj h
      rw [if_pos hk, hc]
    · rename_i hk
      rw [if_neg hk, ih h]

theorem get?_insert (key key' : String) (value : α) (members : Members α) :
    get? key' (insert key value members) = if key = key' then some value else get? key' members := by
  rw [insert_eq_update key value value, get?_update]

theorem keys_insert (key : String) (value : α) (members : Members α) :
    (insert key value members).keys = if key ∈ members.keys then members.keys else members.keys ++ [key] := by
  rw [insert_eq_update key value value, keys_update]

theorem nodup_keys_insert {members : Members α} (h : members.keys.Nodup) (key : String) (value : α) :
    (insert key value members).keys.Nodup := by
  rw [insert_eq_update key value value]
  exact nodup_keys_update h key value _

/-! ## Taking out -/

/-- A member that is not there is not taken out. -/
theorem remove_eq_self {key : String} {members : Members α} (h : key ∉ members.keys) : remove key members = members := by
  induction members with
  | nil => rfl
  | cons first rest ih =>
    obtain ⟨k, v⟩ := first
    rw [keys, List.map_cons, List.mem_cons, not_or] at h
    rw [remove, if_neg fun e => h.1 e.symm, ih h.2]

/-- The members are, in some order, the one that is taken out and those that are left. -/
theorem perm_remove {key : String} {value : α} {members : Members α} (h : get? key members = some value) :
    members.Perm ((key, value) :: remove key members) := by
  induction members with
  | nil => nomatch h
  | cons first rest ih =>
    obtain ⟨k, v⟩ := first
    rw [get?] at h
    rw [remove]
    split at h
    · rename_i hk
      subst hk
      obtain rfl := Option.some.inj h
      rw [if_pos rfl]
      refine List.Perm.cons _ ?_
      cases hlast : rest.getLast? with
      | none => rw [List.getLast?_eq_none_iff.1 hlast]
      | some last =>
        have hrest : rest.dropLast ++ [last] = rest := List.dropLast_append_getLast? last hlast
        have hperm : (rest.dropLast ++ [last]).Perm (last :: rest.dropLast) := List.perm_append_singleton last _
        rwa [hrest] at hperm
    · rename_i hk
      rw [if_neg hk]
      exact ((ih h).cons _).trans (.swap _ _ _)

/-- The keys that are left when a member is taken out. -/
theorem nodup_keys_remove {members : Members α} (h : members.keys.Nodup) (key : String) :
    (remove key members).keys.Nodup ∧ key ∉ (remove key members).keys := by
  cases hg : get? key members with
  | none =>
    have hnone := get?_eq_none_iff.1 hg
    rw [remove_eq_self hnone]
    exact ⟨h, hnone⟩
  | some value =>
    have hperm := (perm_remove hg).map Prod.fst
    have hnodup : (key :: (remove key members).keys).Nodup := hperm.nodup_iff.1 h
    exact ⟨(List.nodup_cons.1 hnodup).2, (List.nodup_cons.1 hnodup).1⟩

theorem get?_remove {members : Members α} (h : members.keys.Nodup) (key key' : String) :
    get? key' (remove key members) = if key = key' then none else get? key' members := by
  obtain ⟨hnodup, hgone⟩ := nodup_keys_remove h key
  split
  · rename_i hk
    subst hk
    exact get?_eq_none_iff.2 hgone
  · rename_i hk
    cases hg : get? key members with
    | none => rw [remove_eq_self (get?_eq_none_iff.1 hg)]
    | some value =>
      refine Option.ext fun value' => ?_
      rw [get?_eq_some_iff hnodup, get?_eq_some_iff h, (perm_remove hg).mem_iff, List.mem_cons, Prod.mk.injEq]
      exact (or_iff_right fun e => hk e.1.symm).symm

/-! ## Writing members one after the other -/

/-- The keys after more members have been written: the new ones follow, in the order in which they were written first. -/
theorem keys_foldl_insert (entries : List (String × α)) (members : Members α) :
    keys (entries.foldl (fun members entry => members.insert entry.1 entry.2) members) =
      members.keys ++ ((entries.map Prod.fst).removeAll members.keys).eraseDups := by
  induction entries generalizing members with
  | nil => rw [List.map_nil, List.nil_removeAll, List.eraseDups_nil, List.append_nil]; rfl
  | cons entry entries ih =>
    rw [List.foldl_cons, ih, keys_insert, List.map_cons, List.cons_removeAll]
    by_cases h : entry.1 ∈ members.keys
    · rw [if_pos h, if_neg (by simpa using h)]
    · have hrest : (entries.map Prod.fst).removeAll (members.keys ++ [entry.1]) =
          ((entries.map Prod.fst).removeAll members.keys).filter fun key => !key == entry.1 := by
        rw [List.removeAll, List.removeAll, List.filter_filter]
        refine List.filter_congr fun key _ => ?_
        rw [Bool.eq_iff_iff]
        simp [and_comm]
      rw [if_neg h, if_pos (by simpa using h), List.eraseDups_cons, hrest, List.append_assoc, List.singleton_append]

/-- The keys of members written one after the other. -/
theorem keys_ofList (entries : List (String × α)) : (ofList entries).keys = (entries.map Prod.fst).eraseDups := by
  rw [ofList, keys_foldl_insert]
  exact congrArg List.eraseDups List.removeAll_nil

/-- A member with a new key is put behind all others. -/
theorem insert_of_not_mem {key : String} (value : α) {members : Members α} (h : key ∉ members.keys) :
    insert key value members = members ++ [(key, value)] := by
  induction members with
  | nil => rfl
  | cons first rest ih =>
    rw [keys, List.map_cons, List.mem_cons, not_or] at h
    rw [insert, if_neg fun e => h.1 e.symm, ih h.2, List.cons_append]

/-- Members with new keys, none of them twice, are put behind all others in their order. -/
theorem foldl_insert_of_nodup {entries : List (String × α)} {members : Members α}
    (h : (members.keys ++ entries.map Prod.fst).Nodup) :
    entries.foldl (fun members entry => members.insert entry.1 entry.2) members = members ++ entries := by
  induction entries generalizing members with
  | nil => exact (List.append_nil members).symm
  | cons entry entries ih =>
    have hnew : entry.1 ∉ members.keys := fun hmem =>
      (List.nodup_append.1 h).2.2 _ hmem _ List.mem_cons_self rfl
    have hkeys : keys (members ++ [entry]) ++ entries.map Prod.fst = members.keys ++ (entry :: entries).map Prod.fst := by
      simp [keys]
    rw [List.foldl_cons, insert_of_not_mem entry.2 hnew, ih (hkeys ▸ h), List.append_assoc, List.singleton_append]

/-- Members without a doubled key are written as they are. -/
theorem ofList_eq_self {entries : List (String × α)} (h : (entries.map Prod.fst).Nodup) : ofList entries = entries :=
  foldl_insert_of_nodup h

theorem nodup_keys_foldl_insert (entries : List (String × α)) {members : Members α} (h : members.keys.Nodup) :
    (keys (entries.foldl (fun members entry => members.insert entry.1 entry.2) members)).Nodup := by
  induction entries generalizing members with
  | nil => exact h
  | cons entry entries ih => exact ih (nodup_keys_insert h entry.1 entry.2)

/-- Members written one after the other have no key twice. -/
theorem nodup_keys_ofList (entries : List (String × α)) : (ofList entries).keys.Nodup :=
  nodup_keys_foldl_insert entries List.nodup_nil

/-- What is found after more members have been written: what was written last under the key, if anything was. -/
theorem get?_foldl_insert (key : String) (entries : List (String × α)) (members : Members α) :
    get? key (entries.foldl (fun members entry => members.insert entry.1 entry.2) members) =
      ((entries.reverse.find? (·.1 == key)).map Prod.snd).or (get? key members) := by
  induction entries generalizing members with
  | nil => rfl
  | cons entry entries ih =>
    rw [List.foldl_cons, ih, get?_insert, List.reverse_cons, List.find?_append, List.find?_singleton]
    cases entries.reverse.find? (·.1 == key) with
    | some last => rfl
    | none =>
      by_cases h : entry.1 = key
      · rw [if_pos h, if_pos (by simpa using h)]
        rfl
      · rw [if_neg h, if_neg (by simpa using h)]
        rfl

/-- What is found among members written one after the other. -/
theorem get?_ofList (key : String) (entries : List (String × α)) :
    get? key (ofList entries) = (entries.reverse.find? (·.1 == key)).map Prod.snd := by
  rw [ofList, get?_foldl_insert]
  exact Option.or_none

/-- What is found under a key under which only one value has been written. -/
theorem get?_ofList_of_forall {key : String} {value : α} {entries : List (String × α)} (hm : (key, value) ∈ entries)
    (h : ∀ other, (key, other) ∈ entries → other = value) : get? key (ofList entries) = some value := by
  rw [get?_ofList]
  cases hfind : entries.reverse.find? (·.1 == key) with
  | none =>
    rw [List.find?_eq_none] at hfind
    exact absurd (beq_self_eq_true key) (hfind _ (List.mem_reverse.2 hm))
  | some entry =>
    obtain ⟨k, v⟩ := entry
    have hkey : k = key := by simpa using List.find?_some hfind
    subst hkey
    exact congrArg some (h v (List.mem_reverse.1 (List.mem_of_find?_eq_some hfind)))

end SheetQuery.Members
