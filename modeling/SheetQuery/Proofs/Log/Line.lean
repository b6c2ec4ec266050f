import SheetQuery.Log.Entry
import SheetQuery.Proofs.Json.Order
import SheetQuery.Proofs.Json.ReadBack
import SheetQuery.Proofs.Sorting.Successive

/-!
# One line for one event

The values of a log entry come from requests, so they can be any texts. None of them gets out of its place: the line ends at
its end and nowhere before, and what is read of it is the event, the severity and the fields, each once and with its value
(`isLineOf_line`). Where no key comes twice, the order in which the fields were given leaves no trace.
-/

namespace SheetQuery.Log

open Json

/-! ## Fields by their keys -/

/-- How two fields compare: by their keys. -/
def compareKeys (a b : String × String) : Ordering :=
  compareText a.1 b.1

instance : Std.TransCmp compareKeys where
  eq_swap {a b} := show compareText a.1 b.1 = (compareText b.1 a.1).swap from Std.OrientedCmp.eq_swap
  isLE_trans {a b c} (hab : (compareText a.1 b.1).isLE) (hbc : (compareText b.1 c.1).isLE) :=
    show (compareText a.1 c.1).isLE from Std.TransCmp.isLE_trans hab hbc

variable {fields : List (String × String)}

/-- Fields without a doubled key are sorted strictly. -/
theorem pairwise_stableSort_keys (distinct : (fields.map Prod.fst).Nodup) :
    (stableSort (fun a b => (compareKeys a b).isLT) fields).Pairwise fun a b => compareKeys a b = .lt := by
  have hsorted := stablySortedBy_of_transCmp compareKeys fields
  have hkeys := (hsorted.perm.map Prod.fst).nodup_iff.2 distinct
  refine (hsorted.ascending.and (List.pairwise_map.1 hkeys)).imp ?_
  rintro a b ⟨hle, hne⟩
  refine (Ordering.isLE_iff_eq_lt_or_eq_eq.1 hle).resolve_right fun heq => hne ?_
  exact Std.LawfulEqCmp.eq_of_compare (show compareText a.1 b.1 = .eq from heq)

/-- Fields without a doubled key are sorted in one way, in whatever order they are given. -/
theorem stableSort_keys_of_perm {other : List (String × String)} (distinct : (fields.map Prod.fst).Nodup)
    (h : other.Perm fields) :
    stableSort (fun a b => (compareKeys a b).isLT) other = stableSort (fun a b => (compareKeys a b).isLT) fields := by
  have hother := pairwise_stableSort_keys ((h.map Prod.fst).nodup_iff.2 distinct)
  have hperm := (stableSort_perm (fun a b => (compareKeys a b).isLT) other).trans
    (h.trans (stableSort_perm (fun a b => (compareKeys a b).isLT) fields).symm)
  refine hperm.eq_of_pairwise (fun a b _ _ hab hba => ?_) hother (pairwise_stableSort_keys distinct)
  have hloop : compareKeys a a = .lt := Std.TransCmp.lt_trans hab hba
  nomatch (compareText_self a.1).symm.trans hloop

namespace Entry

variable {entry : Entry}

/-! ## The line -/

/-- Whether the fields of an entry have keys of their own: no key comes twice, and none is that of the event or the
severity. -/
structure Distinct (entry : Entry) : Prop where
  keys : (entry.fields.map Prod.fst).Nodup
  event : "event" ∉ entry.fields.map Prod.fst
  severity : "severity" ∉ entry.fields.map Prod.fst

/-- The fields of an entry by their keys, behind the event and the severity. -/
def sortedTexts (entry : Entry) : List (String × String) :=
  ("event", entry.event.name) :: ("severity", entry.severity.name) ::
    stableSort (fun a b => (compareKeys a b).isLT) entry.fields

theorem Distinct.nodup_sortedTexts (h : entry.Distinct) : (entry.sortedTexts.map Prod.fst).Nodup := by
  have hperm := (stableSort_perm (fun a b => (compareKeys a b).isLT) entry.fields).map Prod.fst
  rw [sortedTexts, List.map_cons, List.map_cons, List.nodup_cons, List.nodup_cons, List.mem_cons, hperm.mem_iff,
    hperm.mem_iff, hperm.nodup_iff]
  have hne : "event" ≠ "severity" := by decide
  exact ⟨fun hmem => hmem.elim hne h.event, h.severity, h.keys⟩

/-- What is written of the fields can be read back. -/
theorem Distinct.legible (h : entry.Distinct) : Legible depthLimit (.obj (textMembers entry.sortedTexts)) :=
  legible_textMembers h.nodup_sortedTexts

/-- The object of an entry has the fields as they are. -/
theorem Distinct.json_eq (h : entry.Distinct) : entry.json = .obj (textMembers entry.sortedTexts) := by
  have hkeys : ((textMembers entry.sortedTexts).map Prod.fst).Nodup := by
    rw [textMembers, List.map_map]
    exact h.nodup_sortedTexts
  exact congrArg Json.obj (Members.ofList_eq_self hkeys)

/-- The characters of the line of an entry. -/
theorem Distinct.toList_line (h : entry.Distinct) :
    entry.line.toList = compactChars (.obj (textMembers entry.sortedTexts)) ++ ['\n'] := by
  rw [line, String.toList_append, h.json_eq, compact, String.toList_ofList]
  rfl

/-- Whether a text is the line of an entry: it ends at its only control character below the space, a line feed; and what is
read of it is an object that has the event, the severity and the fields in ascending order of their keys, each of them written
once. -/
structure IsLineOf (entry : Entry) (text : String) : Prop where
  ending : ∃ body, text.toList = body ++ ['\n'] ∧ ∀ c ∈ body, 0x20 ≤ c.toNat
  reading : ∃ sorted : List (String × String), sorted.Perm entry.fields ∧ (sorted.Pairwise fun a b => compareText a.1 b.1 = .lt) ∧
    Json.read? text = some (.obj (("event", .str entry.event.name) :: ("severity", .str entry.severity.name) ::
      sorted.map fun (key, value) => (key, .str value)))
  written : ∃ members, Source.read? text = some (.obj members) ∧ members.length = entry.fields.length + 2

/-- The order in which fields with keys of their own are given leaves no trace in the object. -/
theorem Distinct.json_of_perm (h : entry.Distinct) {fields : List (String × String)} (hperm : fields.Perm entry.fields) :
    Entry.json { entry with fields } = entry.json := by
  have hsort := stableSort_keys_of_perm h.keys hperm
  exact congrArg (fun sorted => Json.obj (Members.ofList (textMembers
    (("event", entry.event.name) :: ("severity", entry.severity.name) :: sorted)))) hsort

/-- The line of an entry whose fields have keys of their own is a line of that entry, and it is the line of the same fields in
any other order. -/
theorem isLineOf_line (h : entry.Distinct) :
    IsLineOf entry entry.line ∧
      ∀ fields : List (String × String), fields.Perm entry.fields → Entry.line { entry with fields } = entry.line := by
  have hgap : ∀ c ∈ ['\n'], isSpace c = true := List.forall_mem_singleton.2 rfl
  have hline : entry.line = String.ofList (compactChars (.obj (textMembers entry.sortedTexts)) ++ ['\n']) := by
    rw [← h.toList_line, String.ofList_toList]
  refine ⟨⟨?ending, ?reading, ?written⟩, ?permuted⟩
  case ending => exact ⟨_, h.toList_line, printable_compact _⟩
  case reading =>
    refine ⟨_, stableSort_perm _ _, pairwise_stableSort_keys h.keys, ?_⟩
    rw [hline]
    exact h.legible.read?_compact hgap
  case written =>
    refine ⟨writtenMembers (textMembers entry.sortedTexts), ?_, ?_⟩
    · rw [hline, h.legible.sourceRead? hgap, Json.written]
    · have hlength := (stableSort_perm (fun a b => (compareKeys a b).isLT) entry.fields).length_eq
      rw [length_writtenMembers, textMembers, List.length_map, sortedTexts, List.length_cons, List.length_cons, hlength]
  case permuted =>
    intro fields hperm
    rw [line, line, h.json_of_perm hperm]

/-- A value with a line feed and a forged member stays a value. -/
theorem isLineOf_line_forged :
    let entry : Entry := ⟨.warn, .queryRejected, [("error", "\n\x7b\"event\": 1\x7d"), ("collection", "wor\"ld")]⟩
    entry.Distinct ∧ IsLineOf entry entry.line ∧ Entry.line { entry with fields := entry.fields.reverse } = entry.line := by
  intro entry
  have hdistinct : entry.Distinct := ⟨by decide, by decide, by decide⟩
  exact ⟨hdistinct, (isLineOf_line hdistinct).1, (isLineOf_line hdistinct).2 _ (List.reverse_perm _)⟩

end Entry

end SheetQuery.Log
