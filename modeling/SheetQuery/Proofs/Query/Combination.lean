import SheetQuery.Proofs.Decimal.Integer
import SheetQuery.Proofs.Query.Control
import SheetQuery.Proofs.Query.Coverage
import SheetQuery.Proofs.Text.Blank

/-!
# Control parameters one list after the other

What two lists of parameters say together follows from what each of them says alone: the lists are put together, and of a
single value the later one counts if there is one (`read_append`). Parameters can therefore be taken apart and put together
anywhere, and those that are filters can stand between them. And whatever control parameters can say can be written, so that
it is read again as it is (`read_write`).
-/

namespace SheetQuery.Query.Control

open Decimal

/-! ## Two lists of parameters -/

/-- Whether parameters give a value to the control parameter of a name. -/
def gives (params : List (String × String)) (name : String) : Bool :=
  params.any fun param => param.1 == "c:" ++ name

/-- What parameters and later ones say together, when it is known what each of them say alone. -/
def followedBy (former : Control) (later : List (String × String)) (latter : Control) : Control where
  start := if gives later "start" then latter.start else former.start
  limit := if gives later "limit" then latter.limit else former.limit
  included := former.included ++ latter.included
  excluded := former.excluded ++ latter.excluded
  sort := former.sort ++ latter.sort
  existing := former.existing ++ latter.existing
  timing := if gives later "timing" then latter.timing else former.timing

theorem valuesOf_append (params others : List (String × String)) (name : String) :
    valuesOf (params ++ others) name = valuesOf params name ++ valuesOf others name := by
  simp [valuesOf]

/-- Parameters give a value to a name exactly when there are values of it. -/
theorem gives_eq (params : List (String × String)) (name : String) : gives params name = !(valuesOf params name).isEmpty := by
  rw [Bool.eq_iff_iff]
  simp [gives, valuesOf, name?_eq_some_iff]

/-- Of values that can all be read the last one counts, whatever counted before, if there is one. -/
theorem getLastD_filterMap {α : Type} {read? : String → Option α} {values : List String}
    (h : ∀ value ∈ values, (read? value).isSome = true) (former other : α) :
    (values.filterMap read?).getLastD former = if !values.isEmpty then (values.filterMap read?).getLastD other else former := by
  cases values with
  | nil => rfl
  | cons value values =>
    obtain ⟨first, hfirst⟩ := Option.isSome_iff_exists.1 (h value List.mem_cons_self)
    rw [List.filterMap_cons_some hfirst, List.getLastD_cons, List.getLastD_cons]
    rfl

/-- What valid parameters say behind others is what they say alone, put behind what those say. -/
theorem after_valuesOf {params : List (String × String)} (h : params.findSome? fault? = none) (former : Control) :
    former.after (valuesOf params) = former.followedBy params (default.after (valuesOf params)) := by
  have hread : ∀ name, ∀ value ∈ valuesOf params name, isValid name value = true := fun _ _ =>
    isValid_of_mem_valuesOf h
  rw [followedBy, gives_eq, gives_eq, gives_eq]
  simp only [after]
  rw [getLastD_filterMap (hread "start") former.start default.start,
    getLastD_filterMap (hread "limit") former.limit default.limit,
    getLastD_filterMap (hread "timing") former.timing default.timing]
  simp [default]

/-- Two lists of parameters say together what the first says, followed by what the second says. The error is that of the first
list that has one. -/
theorem read_append (params later : List (String × String)) :
    read (params ++ later) = do
      let former ← read params
      let latter ← read later
      return former.followedBy later latter := by
  rw [read, read, read, readFrom_eq, readFrom_eq, readFrom_eq, List.findSome?_append]
  cases params.findSome? fault? with
  | some e => rfl
  | none =>
    cases hlater : later.findSome? fault? with
    | some e => rfl
    | none =>
      have hvalues : valuesOf (params ++ later) = fun name => valuesOf params name ++ valuesOf later name :=
        funext (valuesOf_append params later)
      rw [hvalues, ← after_after, after_valuesOf hlater]
      rfl

/-! ## Parameters written out -/

/-- Whether a text can be an entry of a list: nothing of it is trimmed or left out, and it stands between two commas. -/
structure IsEntry (text : String) : Prop where
  trimmed : Text.trim text = text
  nonempty : text ≠ ""
  unseparated : ',' ∉ text.toList

instance (text : String) : Decidable (IsEntry text) :=
  decidable_of_iff (Text.trim text = text ∧ text ≠ "" ∧ ',' ∉ text.toList)
    ⟨fun ⟨trimmed, nonempty, unseparated⟩ => ⟨trimmed, nonempty, unseparated⟩,
      fun h => ⟨h.trimmed, h.nonempty, h.unseparated⟩⟩

/-- Whether this can be said with parameters. -/
structure Writable (control : Control) : Prop where
  limit : 1 ≤ control.limit ∧ control.limit ≤ maxLimit
  included : ∀ path ∈ control.included, IsEntry path
  excluded : ∀ path ∈ control.excluded, IsEntry path
  existing : ∀ path ∈ control.existing, IsEntry path
  sort : ∀ key ∈ control.sort, IsEntry key.field ∧ ':' ∉ key.field.toList

/-- Entries that are written with commas between them are read as they are. -/
theorem entries_joinWith {items : List String} (h : ∀ item ∈ items, IsEntry item) :
    entries (String.ofList (Text.joinWith ',' (items.map String.toList))) = items := by
  cases items with
  | nil => rfl
  | cons item items =>
    have hcomma : ∀ piece ∈ (item :: items).map String.toList, ',' ∉ piece := by
      intro piece hpiece
      obtain ⟨text, htext, rfl⟩ := List.mem_map.1 hpiece
      exact (h text htext).unseparated
    have hpieces : Text.pieces ',' (String.ofList (Text.joinWith ',' ((item :: items).map String.toList))) = item :: items := by
      have hne : (item :: items).map String.toList ≠ [] := by simp
      rw [Text.pieces, String.toList_ofList, Text.splitOn_joinWith hne hcomma, List.map_map]
      simp [Function.comp_def]
    rw [entries, hpieces, List.map_congr_left fun text htext => (h text htext).trimmed, List.map_id', List.filter_eq_self]
    intro text htext
    simpa using (h text htext).nonempty

/-- A key that is written is read as it is. -/
theorem read_write_sortKey {key : SortKey} (h : ':' ∉ key.field.toList) : SortKey.read key.write = key := by
  obtain ⟨field, descending⟩ := key
  cases descending with
  | false => simp [SortKey.read, SortKey.write, Text.pieces, Text.splitOn_of_not_mem h]
  | true =>
    have hpieces : Text.pieces ':' (field ++ ":-1") = [field, "-1"] := by
      have hmark : ":-1".toList = ':' :: ['-', '1'] := rfl
      rw [Text.pieces, String.toList_append, hmark, Text.splitOn_append_cons h]
      simp [Text.splitOn]
    simp [SortKey.read, SortKey.write, hpieces]

/-- A key that is written is an entry if its field is. -/
theorem isEntry_write {key : SortKey} (h : IsEntry key.field) : IsEntry key.write := by
  unfold SortKey.write
  split
  · refine ⟨Text.trim_append h.trimmed (by decide), ?_, ?_⟩
    · simp [h.nonempty]
    · simp [h.unseparated]
  · exact h

/-- The digits of a number are read as the number. -/
theorem readCount?_toString (n : UInt64) : readCount? (toString n.toNat) = some n := by
  have hdigits : (toString n.toNat).toList = Nat.toDigits 10 n.toNat := Nat.toList_repr
  have htrim : Text.trim (toString n.toNat) = toString n.toNat := by
    refine Text.trim_of_forall fun c hc => ?_
    rw [hdigits] at hc
    exact Text.isBlank_of_isDigit (isDigit_of_mem_toDigits hc)
  have hlt := n.toNat_lt
  have hbound : n.toNat ≤ IntWidth.u64.greatest.toNat := by
    rw [IntWidth.greatest]
    omega
  rw [readCount?, htrim, hdigits, readInteger_digits _ (isDigits_toDigits _), readDigits_toDigits _ hbound]
  simp

/-- A control parameter that is valid is read before all others. -/
theorem readFrom_cons {control control' : Control} {param value name : String} (hname : name? param = some name)
    (hset : control.set name value = .ok control') (params : List (String × String)) :
    readFrom control ((param, value) :: params) = readFrom control' params := by
  rw [readFrom, hname]
  simp only [hset]

/-- A list that is written is read into what its name lets grow. -/
theorem readFrom_writeList (grown : List String → Control) {param name : String} {items : List String}
    (h : ∀ item ∈ items, IsEntry item) (hname : name? param = some name)
    (hset : ∀ value, (grown []).set name value = .ok (grown (entries value))) (params : List (String × String)) :
    readFrom (grown []) (writeList param items ++ params) = readFrom (grown items) params := by
  unfold writeList
  split
  · rename_i hitems
    rw [List.isEmpty_iff.1 hitems, List.nil_append]
  · rw [List.singleton_append, readFrom_cons hname (hset _), entries_joinWith h]

/-- What is written is read as it is. -/
theorem read_write {control : Control} (h : control.Writable) : read control.write = .ok control := by
  obtain ⟨start, limit, included, excluded, sort, existing, timing⟩ := control
  obtain ⟨hlimit, hincluded, hexcluded, hexisting, hsort⟩ := h
  simp only at hlimit hincluded hexcluded hexisting hsort
  have hpositive : limit ≠ 0 := by
    rintro rfl
    exact absurd hlimit.1 (by decide)
  have hkeys : ∀ item ∈ sort.map SortKey.write, IsEntry item := by
    intro item hitem
    obtain ⟨key, hkey, rfl⟩ := List.mem_map.1 hitem
    exact isEntry_write (hsort key hkey).1
  have hread : (sort.map SortKey.write).map SortKey.read = sort := by
    rw [List.map_map]
    refine (List.map_congr_left fun key hkey => ?_).trans (List.map_id sort)
    exact read_write_sortKey (hsort key hkey).2
  have hmin : min limit maxLimit = limit := Std.LawfulOrderLeftLeaningMin.min_eq_left _ _ hlimit.2
  have hstart : set default "start" (toString start.toNat) = .ok ⟨start, defaultLimit, [], [], [], [], false⟩ := by
    simp only [set, readCount?_toString]
    rfl
  have hsize : set ⟨start, defaultLimit, [], [], [], [], false⟩ "limit" (toString limit.toNat) =
      .ok ⟨start, limit, [], [], [], [], false⟩ := by
    simp only [set, readCount?_toString, hpositive, hmin, if_false]
  have htiming : ∀ control : Control, control.set "timing" (if timing then "1" else "0") =
      .ok { control with timing := timing } := by
    intro control
    cases timing <;> rfl
  simp only [read, write, List.append_assoc, List.cons_append, List.nil_append]
  generalize sort.map SortKey.write = texts at hkeys hread
  subst hread
  have hsorted : ∀ params, readFrom ⟨start, limit, included, excluded, [], existing, false⟩
      (writeList "c:sort" texts ++ params) =
        readFrom ⟨start, limit, included, excluded, texts.map SortKey.read, existing, false⟩ params :=
    readFrom_writeList (fun texts => ⟨start, limit, included, excluded, texts.map SortKey.read, existing, false⟩) hkeys rfl
      fun _ => rfl
  -- Each parameter sets its own field, so what has been read grows into what was written.
  rw [readFrom_cons rfl hstart, readFrom_cons rfl hsize,
    readFrom_writeList (⟨start, limit, ·, [], [], [], false⟩) hincluded rfl fun _ => rfl,
    readFrom_writeList (⟨start, limit, included, ·, [], [], false⟩) hexcluded rfl fun _ => rfl,
    readFrom_writeList (⟨start, limit, included, excluded, [], ·, false⟩) hexisting rfl fun _ => rfl,
    hsorted, readFrom_cons rfl (htiming _), readFrom]

/-- Control parameters go together. What two lists of them say is what the first says, followed by what the second says; the
error is that of the first parameter that is not valid; filters between them say nothing; every page has room, and none for
more than ten thousand documents; and all that can be said is read from the parameters that write it. -/
theorem read_composes :
    (∀ params later, read (params ++ later) = do
        let former ← read params
        let latter ← read later
        return former.followedBy later latter) ∧
      (∀ params, error? (read params) = params.findSome? fault?) ∧
      (∀ before between after : List (String × String), (∀ param ∈ between, ¬ ['c', ':'] <+: param.1.toList) →
        read (before ++ between ++ after) = read (before ++ after)) ∧
      (∀ params control, read params = .ok control → 1 ≤ control.limit ∧ control.limit ≤ 10000) ∧
      ∀ control, control.Writable → read control.write = .ok control := by
  refine ⟨read_append, error?_read, fun before between after h => ?_, fun _ _ => limit_bounds, fun _ => read_write⟩
  have hfilters : between.filter (fun param => isReserved param.1) = [] := by
    rw [List.filter_eq_nil_iff]
    intro param hparam
    rw [isReserved_eq_false_iff.2 (h param hparam)]
    exact Bool.false_ne_true
  rw [read, read, ← readFrom_filter, ← readFrom_filter _ (before ++ after)]
  simp only [List.filter_append, hfilters, List.append_nil]

/-- A page of named worlds by their names backwards is read as it is written; and a page that is too large is cut, whatever
filter stands between the parameters. -/
theorem read_composes_worlds :
    let control : Control := ⟨200, 50, ["name.en", "world_id"], ["name.de"], [⟨"name.en", true⟩, ⟨"world_id", false⟩],
      ["name"], true⟩
    let cut : Control := { default with limit := 10000, included := ["name.en"] }
    (control.Writable ∧ read control.write = .ok control) ∧
      read [("c:show", "name.en"), ("world_id", "!5"), ("c:limit", "20000")] = .ok cut ∧
        (1 ≤ cut.limit ∧ cut.limit ≤ 10000) := by
  intro control cut
  have hwritable : control.Writable :=
    ⟨by decide, by decide +kernel, by decide +kernel, by decide +kernel, by decide +kernel⟩
  have hfilter : ∀ param ∈ [("world_id", "!5")], ¬ ['c', ':'] <+: param.1.toList := by
    decide
  have hread : read [("c:show", "name.en"), ("c:limit", "20000")] = .ok cut := by decide +kernel
  have hwith := (read_composes.2.2.1 [("c:show", "name.en")] [("world_id", "!5")] [("c:limit", "20000")] hfilter).trans hread
  exact ⟨⟨hwritable, read_composes.2.2.2.2 control hwritable⟩, hwith, read_composes.2.2.2.1 _ cut hwith⟩

end SheetQuery.Query.Control
