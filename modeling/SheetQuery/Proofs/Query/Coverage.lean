import SheetQuery.Proofs.Query.Acceptance

/-!
# Names of filters

The name of a filter is looked at for each comparison that its value makes, and not by itself. So a request is refused for a
name without a declared field as soon as the value says something; a value that says nothing goes with any name, and the
parameter might as well not be there (`names_of_compile`).
-/

namespace SheetQuery.Query

/-! ## Values that say nothing -/

/-- Whether every piece of a value between commas is empty or a sigil and nothing else. -/
def SaysNothing (value : String) : Prop :=
  ∀ piece ∈ Text.splitOn ',' value.toList, piece = [] ∨ ∃ c, piece = [c] ∧ (Operator.ofSigil? c).isSome = true

theorem readPiece_eq_none_iff {piece : List Char} :
    readPiece piece = none ↔ piece = [] ∨ ∃ c, piece = [c] ∧ (Operator.ofSigil? c).isSome = true := by
  cases piece with
  | nil => simp [readPiece]
  | cons c rest =>
    rw [readPiece]
    cases hsigil : Operator.ofSigil? c with
    | none => simp [hsigil]
    | some operator =>
      cases rest with
      | nil => simp [hsigil]
      | cons next rest =>
        have hmore : ¬ ((next :: rest).isEmpty = true) := by simp
        simp only [if_neg hmore]
        split <;> simp

/-- A value says nothing exactly when it makes no comparison. -/
theorem tokens_eq_nil_iff {field value : String} : tokens field value = [] ↔ SaysNothing value := by
  unfold tokens readPieces SaysNothing
  simp [readPiece_eq_none_iff]

/-- Every comparison of a filter is one of its field. -/
theorem field_of_mem_tokens {field value : String} {token : Token} (h : token ∈ tokens field value) :
    token.field = field := by
  obtain ⟨_, _, rfl⟩ := List.mem_map.1 h
  rfl

/-! ## Parameters that are passed over -/

/-- A parameter is a filter exactly when its name does not begin with the mark of control parameters. -/
theorem isReserved_eq_false_iff {param : String} : Control.isReserved param = false ↔ ¬ ['c', ':'] <+: param.toList := by
  unfold Control.isReserved Control.name?
  split
  · rename_i rest hparam
    simp [hparam]
  · rename_i hother
    refine iff_of_true rfl ?_
    rintro ⟨rest, hparam⟩
    exact hother rest hparam.symm

/-- Control parameters say the same without the filters. -/
theorem Control.readFrom_filter (control : Control) (params : List (String × String)) :
    readFrom control (params.filter fun param => isReserved param.1) = readFrom control params := by
  induction params generalizing control with
  | nil => rfl
  | cons param params ih =>
    obtain ⟨key, value⟩ := param
    cases hname : name? key with
    | none =>
      rw [List.filter_cons_of_neg (by simp [isReserved, hname]), ih, readFrom, hname]
    | some name =>
      rw [List.filter_cons_of_pos (by simp [isReserved, hname]), readFrom, readFrom, hname]
      simp only [ih]

/-- A plan depends on what the control parameters say and on the comparisons, and on nothing else of a request. -/
theorem compile_congr {params params' : List (String × String)} (hcontrol : Control.read params = Control.read params')
    (htokens : filterTokens params = filterTokens params') (catalog : Catalog) (name : String) :
    compile catalog name params = compile catalog name params' := by
  rw [compile, compile, hcontrol, htokens]

variable {catalog : Catalog} {name : String}

/-- A filter that says nothing can be left out, whatever its name. -/
theorem compile_silent {param value : String} (hfilter : Control.isReserved param = false) (hsilent : SaysNothing value)
    (before after : List (String × String)) :
    compile catalog name (before ++ (param, value) :: after) = compile catalog name (before ++ after) := by
  refine compile_congr ?_ ?_ catalog name
  · rw [Control.read, Control.read, ← Control.readFrom_filter, ← Control.readFrom_filter _ (before ++ after)]
    simp [hfilter]
  · have hnone : tokens param value = [] := tokens_eq_nil_iff.2 hsilent
    simp [filterTokens, hfilter, hnone]

/-- A filter of a compiled request that says something names a declared field. -/
theorem exists_declares_of_compile {params : List (String × String)} {plan : Plan}
    (h : compile catalog name params = .ok plan) {param value : String} (hparam : (param, value) ∈ params)
    (hfilter : Control.isReserved param = false) (hspeaks : ¬ SaysNothing value) :
    ∃ collection field, catalog.find? name = some collection ∧ collection.Declares param field := by
  obtain ⟨collection, control, filters, hcollection, -, -, hfilters, -⟩ := exists_of_compile h
  have hmakes : tokens param value ≠ [] := mt tokens_eq_nil_iff.1 hspeaks
  obtain ⟨token, htoken⟩ := List.exists_mem_of_ne_nil _ hmakes
  have hmem : token ∈ filterTokens params :=
    List.mem_flatMap.2 ⟨(param, value), List.mem_filter.2 ⟨hparam, by simp [hfilter]⟩, htoken⟩
  -- No token of the request has an error, this one included.
  have hclean := error?_eq_none_iff.2 ⟨filters, hfilters⟩
  rw [error?_typedClauses, List.findSome?_eq_none_iff] at hclean
  obtain ⟨clause, hclause⟩ := error?_eq_none_iff.1 (hclean token hmem)
  obtain ⟨field, hdeclares, -⟩ := (typedClause_eq_ok_iff.1 hclause).operand
  rw [field_of_mem_tokens htoken] at hdeclares
  exact ⟨collection, field, require_eq_ok_iff.1 hcollection, hdeclares⟩

/-- Of the filters of a compiled request, those that say something name a declared field, and those that say nothing can have
any name. -/
theorem names_of_compile {before after : List (String × String)} {param value : String} {plan : Plan}
    (h : compile catalog name (before ++ (param, value) :: after) = .ok plan) (hfilter : ¬ ['c', ':'] <+: param.toList) :
    (¬ SaysNothing value → ∃ collection field, catalog.find? name = some collection ∧ collection.Declares param field) ∧
      (SaysNothing value → ∀ other : String, ¬ ['c', ':'] <+: other.toList →
        compile catalog name (before ++ (other, value) :: after) = .ok plan) := by
  have hreserved := isReserved_eq_false_iff.2 hfilter
  constructor
  · exact exists_declares_of_compile h (List.mem_append_right _ List.mem_cons_self) hreserved
  · intro hsilent other hother
    rw [compile_silent (isReserved_eq_false_iff.2 hother) hsilent, ← h, compile_silent hreserved hsilent]

/-- A world can be asked for by its number, and beside it by nothing under two names that are no fields. -/
theorem names_of_compile_world :
    ∃ plan, compile Catalog.builtin "world" [("world_id", "!,1"), ("zone_id", ",!")] = .ok plan ∧
      (∃ collection field, Catalog.builtin.find? "world" = some collection ∧ collection.Declares "world_id" field) ∧
      compile Catalog.builtin "world" [("world_id", "!,1"), ("planet_id", ",!")] = .ok plan := by
  have haccepted : (compile Catalog.builtin "world" [("world_id", "!,1"), ("zone_id", ",!")]).isOk = true := rfl
  have hspeaks : ¬ SaysNothing "!,1" := mt tokens_eq_nil_iff.2 (by decide : tokens "world_id" "!,1" ≠ [])
  have hsilent : SaysNothing ",!" := tokens_eq_nil_iff.1 (by decide : tokens "zone_id" ",!" = [])
  cases hplan : compile Catalog.builtin "world" [("world_id", "!,1"), ("zone_id", ",!")] with
  | error e =>
    simp [hplan, Except.isOk, Except.toBool] at haccepted
  | ok plan =>
    obtain ⟨hdeclares, -⟩ := @names_of_compile _ _ [] [("zone_id", ",!")] _ _ _ hplan (by decide)
    obtain ⟨-, hother⟩ := @names_of_compile _ _ [("world_id", "!,1")] [] _ _ _ hplan (by decide)
    exact ⟨plan, rfl, hdeclares hspeaks, hother hsilent "planet_id" (by decide)⟩

/-- A compiled request can have a filter without a declared field. -/
theorem compile_undeclared :
    ∃ plan, compile Catalog.builtin "world" [("zone_id", "!")] = .ok plan ∧ ¬ ['c', ':'] <+: "zone_id".toList ∧
      ∀ collection, Catalog.builtin.find? "world" = some collection → ∀ field, ¬ collection.Declares "zone_id" field := by
  have hcollection : (Catalog.builtin.require "world").toOption = some Catalog.world := by decide
  have hcontrol : (Control.read [("zone_id", "!")]).toOption = some Control.default := rfl
  refine ⟨_, compile_unfiltered hcollection hcontrol (by decide) (by decide), by decide, ?_⟩
  intro collection hfind field
  obtain rfl : Catalog.world = collection := Option.some.inj hfind
  have hnone : Catalog.world.fields.find? (·.name == firstSegment "zone_id") = none := by decide
  simp [Collection.Declares, hnone]

end SheetQuery.Query
