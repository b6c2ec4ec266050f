import SheetQuery.Proofs.Query.Setting
import SheetQuery.Proofs.Text.Split
import SheetQuery.Query.Compile

/-!
# What a request asks for

The parameters of a request as they are written, without the functions that read them: which of them are control parameters,
what stands between the commas of a list, which part of it is white space, and which sigil stands before an operand. Each
relation leaves no choice, and what is read is what is asked for (`asks_iff`).
-/

namespace SheetQuery.Query

open Text

/-! ## Parts in a row -/

/-- What parts say one after the other, each of them some things or nothing. -/
inductive InARow {α β : Type} (tells : α → List β → Prop) : List α → List β → Prop where
  | nil : InARow tells [] []
  | cons {part : α} {parts : List α} {said more : List β} (first : tells part said) (rest : InARow tells parts more) :
    InARow tells (part :: parts) (said ++ more)

/-- Where there is no choice about each part there is none about all of them. -/
theorem inARow_iff {α β : Type} {tells : α → List β → Prop} {f : α → List β} (h : ∀ part said, tells part said ↔ said = f part)
    {parts : List α} {said : List β} : InARow tells parts said ↔ said = parts.flatMap f := by
  constructor
  · intro hrow
    induction hrow with
    | nil => rfl
    | cons first _ ih => rw [List.flatMap_cons, (h _ _).1 first, ih]
  · rintro rfl
    induction parts with
    | nil => exact .nil
    | cons part parts ih =>
      rw [List.flatMap_cons]
      exact .cons ((h _ _).2 rfl) ih

/-- Whether a text is pieces without a separator, with separators between them. -/
structure Between (sep : Char) (text : List Char) (pieces : List (List Char)) : Prop where
  nonempty : pieces ≠ []
  unseparated : ∀ piece ∈ pieces, sep ∉ piece
  joined : List.intercalate [sep] pieces = text

/-- A text is pieces with separators between them in one way. -/
theorem between_iff {sep : Char} {text : List Char} {pieces : List (List Char)} :
    Between sep text pieces ↔ pieces = splitOn sep text := by
  constructor
  · rintro ⟨hne, hsep, rfl⟩
    rw [← joinWith_eq_intercalate, splitOn_joinWith hne hsep]
  · rintro rfl
    exact ⟨splitOn_ne_nil sep text, fun piece hpiece => (not_mem_of_mem_splitOn hpiece).1,
      by rw [← joinWith_eq_intercalate, joinWith_splitOn]⟩

/-! ## Paths -/

/-- What a piece of a list says: the path in it without the white space around it, if it is not all white space. -/
inductive EntryOf (piece : List Char) : List String → Prop where
  | blank (padded : Padded piece []) : EntryOf piece []
  | path {path : List Char} (padded : Padded piece path) (nonempty : path ≠ [])
    (head : ∀ c ∈ path.head?, isBlank c = false) (last : ∀ c ∈ path.getLast?, isBlank c = false) :
    EntryOf piece [String.ofList path]

/-- What a piece of a list is read as. -/
def entryText (piece : List Char) : List String :=
  if dropEnds isBlank piece = [] then [] else [String.ofList (dropEnds isBlank piece)]

theorem entryOf_iff (piece : List Char) (said : List String) : EntryOf piece said ↔ said = entryText piece := by
  have hpadded := padded_dropEnds piece
  constructor
  · rintro (hblank | ⟨hpath, hne, hhead, hlast⟩)
    · exact (if_pos hblank.dropEnds_eq).symm
    · have htrim := hpath.dropEnds_eq.trans (dropEnds_eq_self_iff.2 ⟨hhead, hlast⟩)
      rw [entryText, htrim, if_neg hne]
  · rintro rfl
    rw [entryText]
    split
    · rename_i hnil
      rw [hnil] at hpadded
      exact .blank hpadded
    · rename_i hne
      obtain ⟨hhead, hlast⟩ := dropEnds_eq_self_iff.1 (dropEnds_dropEnds (p := isBlank) piece)
      exact .path hpadded hne hhead hlast

/-- What a list says: what its pieces say, one after the other. -/
def EntriesOf (value : String) (said : List String) : Prop :=
  ∃ pieces, Between ',' value.toList pieces ∧ InARow EntryOf pieces said

/-- The entries of a list are what its pieces are read as. -/
theorem entries_eq (value : String) : Control.entries value = (splitOn ',' value.toList).flatMap entryText := by
  rw [Control.entries, pieces]
  induction splitOn ',' value.toList with
  | nil => rfl
  | cons piece pieces ih =>
    rw [List.map_cons, List.map_cons, List.filter_cons, ih, List.flatMap_cons, trim, String.toList_ofList, entryText]
    by_cases hnil : dropEnds isBlank piece = []
    · simp [hnil]
    · simp [hnil]

theorem entriesOf_iff {value : String} {said : List String} : EntriesOf value said ↔ said = Control.entries value := by
  rw [entries_eq, ← inARow_iff entryOf_iff]
  constructor
  · rintro ⟨pieces, hbetween, hrow⟩
    rwa [between_iff.1 hbetween] at hrow
  · exact fun hrow => ⟨_, between_iff.2 rfl, hrow⟩

/-- What a parameter says under a key: the entries of its value if it has that key, and nothing else. -/
inductive NamedUnder (key : String) : String × String → List String → Prop where
  | named {value : String} {said : List String} (entries : EntriesOf value said) : NamedUnder key (key, value) said
  | other {otherKey value : String} (different : otherKey ≠ key) : NamedUnder key (otherKey, value) []

theorem namedUnder_iff (key : String) (param : String × String) (said : List String) :
    NamedUnder key param said ↔ said = if param.1 = key then Control.entries param.2 else [] := by
  constructor
  · rintro (hentries | hdifferent)
    · rw [if_pos rfl, ← entriesOf_iff]
      exact hentries
    · rw [if_neg hdifferent]
  · rintro rfl
    split
    · rename_i hkey
      subst hkey
      exact .named (entriesOf_iff.2 rfl)
    · rename_i hkey
      exact .other hkey

/-- What is said under the key of a control parameter is what all of its values say. -/
theorem namedUnder_params {key : String} (name : String) (hkey : key = "c:" ++ name) {params : List (String × String)}
    {said : List String} :
    InARow (NamedUnder key) params said ↔ said = (Control.valuesOf params name).flatMap Control.entries := by
  have hflat : (Control.valuesOf params name).flatMap Control.entries =
      params.flatMap fun param => if param.1 = key then Control.entries param.2 else [] := by
    rw [Control.valuesOf, List.flatMap_map]
    induction params with
    | nil => rfl
    | cons param params ih =>
      by_cases hparam : param.1 = key
      · have hname : Control.name? param.1 = some name := Control.name?_eq_some_iff.2 (hparam.trans hkey)
        rw [List.filter_cons_of_pos (by simpa using hname), List.flatMap_cons, List.flatMap_cons, if_pos hparam, ih]
      · have hname : Control.name? param.1 ≠ some name := fun h => hparam ((Control.name?_eq_some_iff.1 h).trans hkey.symm)
        rw [List.filter_cons_of_neg (by simpa using hname), List.flatMap_cons, if_neg hparam, List.nil_append, ih]
  rw [hflat, inARow_iff (namedUnder_iff key)]

/-- The path of an entry to sort by is what stands before its first colon. -/
def sortPath (entry : String) : String :=
  String.ofList (entry.toList.takeWhile (· ≠ ':'))

theorem field_read (entry : String) : (SortKey.read entry).field = sortPath entry := by
  have hhead : (pieces ':' entry).head? = some (sortPath entry) := by
    rw [pieces, List.head?_map, head?_splitOn]
    rfl
  rw [SortKey.read]
  split <;> simp_all

/-! ## Comparisons -/

/-- What a piece of a filter says of a field: nothing if it is empty or a sigil alone; else the comparison that its sigil stands
for with the rest, the anchor being part of its pattern; and without a sigil the equality with the whole. -/
inductive ComparisonOf (field : String) : List Char → List Token → Prop where
  | empty : ComparisonOf field [] []
  | bare {sigil : Char} (marked : sigil ∈ ['<', '[', '>', ']', '^', '*', '!']) : ComparisonOf field [sigil] []
  | marked {sigil : Char} {operator : Operator} {operand : List Char}
    (selects : (sigil, operator) ∈
      [('<', .lt), ('[', .lte), ('>', .gt), (']', .gte), ('*', .regexContains), ('!', Operator.ne)])
    (nonempty : operand ≠ []) : ComparisonOf field (sigil :: operand) [⟨field, operator, String.ofList operand⟩]
  | anchored {pattern : List Char} (nonempty : pattern ≠ []) :
    ComparisonOf field ('^' :: pattern) [⟨field, .regexAnchored, String.ofList ('^' :: pattern)⟩]
  | plain {first : Char} {rest : List Char} (unmarked : first ∉ ['<', '[', '>', ']', '^', '*', '!']) :
    ComparisonOf field (first :: rest) [⟨field, .eq, String.ofList (first :: rest)⟩]

/-- What a piece of a filter is read as. -/
def comparisonText (field : String) (piece : List Char) : List Token :=
  ((readPiece piece).map fun (operator, operand) => Token.mk field operator (String.ofList operand)).toList

theorem comparisonOf_iff (field : String) (piece : List Char) (said : List Token) :
    ComparisonOf field piece said ↔ said = comparisonText field piece := by
  constructor
  · intro h
    cases h with
    | empty => rfl
    | bare marked =>
      simp only [List.mem_cons, List.not_mem_nil, or_false] at marked
      rcases marked with rfl | rfl | rfl | rfl | rfl | rfl | rfl <;> rfl
    | marked selects nonempty =>
      simp only [List.mem_cons, Prod.mk.injEq, List.not_mem_nil, or_false] at selects
      rcases selects with ⟨rfl, rfl⟩ | ⟨rfl, rfl⟩ | ⟨rfl, rfl⟩ | ⟨rfl, rfl⟩ | ⟨rfl, rfl⟩ | ⟨rfl, rfl⟩ <;>
        simp [comparisonText, readPiece, Operator.ofSigil?, nonempty]
    | anchored nonempty => simp [comparisonText, readPiece, Operator.ofSigil?, nonempty]
    | plain unmarked =>
      simp only [List.mem_cons, List.not_mem_nil, or_false, not_or] at unmarked
      simp [comparisonText, readPiece, Operator.ofSigil?, unmarked]
  · rintro rfl
    cases piece with
    | nil => exact .empty
    | cons first rest =>
      by_cases hmarked : first ∈ ['<', '[', '>', ']', '^', '*', '!']
      · have hcases := hmarked
        simp only [List.mem_cons, List.not_mem_nil, or_false] at hcases
        cases rest with
        | nil => rcases hcases with rfl | rfl | rfl | rfl | rfl | rfl | rfl <;> exact .bare hmarked
        | cons next rest =>
          have hne := List.cons_ne_nil next rest
          rcases hcases with rfl | rfl | rfl | rfl | rfl | rfl | rfl
          case inr.inr.inr.inr.inl => exact .anchored hne
          all_goals exact .marked (by simp) hne
      · have hplain : Operator.ofSigil? first = none := by
          simp only [List.mem_cons, List.not_mem_nil, or_false, not_or] at hmarked
          simp [Operator.ofSigil?, hmarked]
        have htext : comparisonText field (first :: rest) = [⟨field, .eq, String.ofList (first :: rest)⟩] := by
          simp [comparisonText, readPiece, hplain]
        rw [htext]
        exact .plain hmarked

/-- What a parameter says to filter by: what the pieces of its value say, unless it is a control parameter. -/
inductive FilteredBy : String × String → List Token → Prop where
  | filter {key value : String} {pieces : List (List Char)} {said : List Token} (other : ∀ name, key ≠ "c:" ++ name)
    (between : Between ',' value.toList pieces) (comparisons : InARow (ComparisonOf key) pieces said) :
    FilteredBy (key, value) said
  | control {name value : String} : FilteredBy ("c:" ++ name, value) []

theorem tokens_eq_flatMap (field value : String) :
    tokens field value = (splitOn ',' value.toList).flatMap (comparisonText field) := by
  rw [tokens, readPieces]
  induction splitOn ',' value.toList with
  | nil => rfl
  | cons piece pieces ih =>
    rw [List.flatMap_cons, ← ih, comparisonText, List.filterMap_cons]
    cases readPiece piece <;> rfl

theorem filteredBy_iff (param : String × String) (said : List Token) :
    FilteredBy param said ↔ said = if Control.isReserved param.1 then [] else tokens param.1 param.2 := by
  constructor
  · intro h
    cases h with
    | @filter key value pieces _ other between comparisons =>
      have hname := Control.name?_eq_none_iff.2 other
      rw [between_iff.1 between, inARow_iff (comparisonOf_iff key), ← tokens_eq_flatMap] at comparisons
      simp [Control.isReserved, hname, comparisons]
    | @control name value =>
      have hname : Control.name? ("c:" ++ name) = some name := Control.name?_eq_some_iff.2 rfl
      simp [Control.isReserved, hname]
  · rintro rfl
    obtain ⟨key, value⟩ := param
    cases hname : Control.name? key with
    | none =>
      simp only [Control.isReserved, hname, Option.isSome_none, Bool.false_eq_true, if_false]
      refine .filter (Control.name?_eq_none_iff.1 hname) (between_iff.2 rfl) ?_
      rw [inARow_iff (comparisonOf_iff key), tokens_eq_flatMap]
    | some name =>
      simp only [Control.isReserved, hname, Option.isSome_some, if_true]
      rw [Control.name?_eq_some_iff.1 hname]
      exact .control

/-! ## Control parameters -/

/-- What a parameter says as a control parameter: its name and its value, if its key has the mark. -/
inductive ControlOf : String × String → List (String × String) → Prop where
  | control {name value : String} : ControlOf ("c:" ++ name, value) [(name, value)]
  | filter {key value : String} (other : ∀ name, key ≠ "c:" ++ name) : ControlOf (key, value) []

/-- The name and the value of a control parameter. -/
def controlText (param : String × String) : List (String × String) :=
  ((Control.name? param.1).map fun name => (name, param.2)).toList

theorem controlOf_iff (param : String × String) (said : List (String × String)) :
    ControlOf param said ↔ said = controlText param := by
  constructor
  · intro h
    cases h with
    | @control name value =>
      have hname : Control.name? ("c:" ++ name) = some name := Control.name?_eq_some_iff.2 rfl
      simp [controlText, hname]
    | filter other => simp [controlText, Control.name?_eq_none_iff.2 other]
  · rintro rfl
    obtain ⟨key, value⟩ := param
    cases hname : Control.name? key with
    | none =>
      simp only [controlText, hname, Option.map_none, Option.toList_none]
      exact .filter (Control.name?_eq_none_iff.1 hname)
    | some name =>
      simp only [controlText, hname, Option.map_some, Option.toList_some]
      rw [Control.name?_eq_some_iff.1 hname]
      exact .control

/-! ## Requests -/

/-- What a request asks for: its control parameters, the paths that they name, and its comparisons. -/
structure Asked where
  controls : List (String × String)
  shown : List String
  hidden : List String
  existing : List String
  sorted : List String
  tokens : List Token

/-- Whether the parameters of a request ask for something, all of it in the order in which it is written. -/
structure Asks (params : List (String × String)) (asked : Asked) : Prop where
  controls : InARow ControlOf params asked.controls
  shown : InARow (NamedUnder "c:show") params asked.shown
  hidden : InARow (NamedUnder "c:hide") params asked.hidden
  existing : InARow (NamedUnder "c:has") params asked.existing
  sorted : ∃ entries, InARow (NamedUnder "c:sort") params entries ∧ asked.sorted = entries.map sortPath
  tokens : InARow FilteredBy params asked.tokens

/-- What is read of the parameters of a request. -/
def Asked.ofParams (params : List (String × String)) : Asked where
  controls := params.flatMap controlText
  shown := (Control.valuesOf params "show").flatMap Control.entries
  hidden := (Control.valuesOf params "hide").flatMap Control.entries
  existing := (Control.valuesOf params "has").flatMap Control.entries
  sorted := ((Control.valuesOf params "sort").flatMap Control.entries).map fun entry => (SortKey.read entry).field
  tokens := filterTokens params

theorem inARow_filteredBy {params : List (String × String)} {said : List Token} :
    InARow FilteredBy params said ↔ said = filterTokens params := by
  have hflat : filterTokens params =
      params.flatMap fun param => if Control.isReserved param.1 then [] else tokens param.1 param.2 := by
    rw [filterTokens]
    induction params with
    | nil => rfl
    | cons param params ih => by_cases hreserved : Control.isReserved param.1 = true <;> simp [hreserved, ih]
  rw [hflat, inARow_iff filteredBy_iff]

/-- A request asks for what is read of it, and for nothing else. -/
theorem asks_iff {params : List (String × String)} {asked : Asked} : Asks params asked ↔ asked = Asked.ofParams params := by
  have hshow : "c:show" = "c:" ++ "show" := rfl
  have hhide : "c:hide" = "c:" ++ "hide" := rfl
  have hhas : "c:has" = "c:" ++ "has" := rfl
  have hsort : "c:sort" = "c:" ++ "sort" := rfl
  constructor
  · rintro ⟨hcontrols, hshown, hhidden, hexisting, ⟨entries, hentries, hsorted⟩, htokens⟩
    obtain ⟨controls, shown, hidden, existing, sorted, tokens⟩ := asked
    dsimp only at hcontrols hshown hhidden hexisting hsorted htokens
    rw [inARow_iff controlOf_iff] at hcontrols
    rw [namedUnder_params "show" hshow] at hshown
    rw [namedUnder_params "hide" hhide] at hhidden
    rw [namedUnder_params "has" hhas] at hexisting
    rw [namedUnder_params "sort" hsort] at hentries
    rw [inARow_filteredBy] at htokens
    rw [Asked.ofParams, hcontrols, hshown, hhidden, hexisting, hsorted, hentries, htokens]
    simp only [field_read]
  · rintro rfl
    refine ⟨(inARow_iff controlOf_iff).2 rfl, (namedUnder_params "show" hshow).2 rfl, (namedUnder_params "hide" hhide).2 rfl,
      (namedUnder_params "has" hhas).2 rfl, ⟨_, (namedUnder_params "sort" hsort).2 rfl, ?_⟩, inARow_filteredBy.2 rfl⟩
    simp only [Asked.ofParams, field_read]

end SheetQuery.Query
