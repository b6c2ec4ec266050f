import SheetQuery.Proofs.Query.Asked
import SheetQuery.Proofs.Query.Compile
import SheetQuery.Proofs.Query.Operand

/-!
# Which requests are compiled

A request has demands, which are checked in a fixed order: its collection, each control parameter by itself, a declared field
for each path that these name, and a clause for each token of the other parameters. A request is compiled exactly when every
demand is met, and is refused for the first one that is not (`compile_outcome`).
-/

namespace SheetQuery.Query

/-! ## Demands -/

/-- Something that has to be the case for a request to be compiled. -/
inductive Demand where
  /-- The collection is in the catalog. -/
  | listed
  /-- A control parameter is valid. -/
  | control (name value : String)
  /-- A path begins with a declared field. -/
  | declared (path : String)
  /-- A token has a clause. -/
  | typed (token : Token)

/-- The paths that a request names, in the order of their checks. -/
def Asked.paths (asked : Asked) : List String :=
  asked.shown ++ asked.hidden ++ asked.existing ++ asked.sorted

/-- The demands of a request, in the order of their checks. -/
def Asked.demands (asked : Asked) : List Demand :=
  [.listed] ++ asked.controls.map (fun (name, value) => .control name value)
    ++ asked.paths.map .declared ++ asked.tokens.map .typed

namespace Demand

variable (catalog : Catalog) (name : String)

/-- Whether a demand is met in a collection of a catalog. -/
def Met : Demand → Prop
  | .listed => ∃ collection, catalog.find? name = some collection
  | .control param value => Control.Valid param value
  | .declared path => ∃ collection field, catalog.find? name = some collection ∧ collection.Declares path field
  | .typed token => ∃ collection clause, catalog.find? name = some collection ∧ ClauseOf collection token clause

/-- What is told of a demand that is not met. -/
def fault : Demand → QueryError
  | .listed => .unknownCollection name
  | .control param value => Control.fault param value
  | .declared path => .unknownField name path
  | .typed token =>
    match (catalog.find? name).bind (·.field? token.field) with
    | some field => .invalidOperand token.field token.operand field.kind.operandKind.name
    | none => .unknownField name token.field

/-- What the check of a demand tells, if it fails. -/
def check : Demand → Option QueryError
  | .listed => error? (catalog.require name)
  | .control param value => if Control.isValid param value then none else some (Control.fault param value)
  | .declared path =>
    match catalog.find? name with
    | some collection => error? (collection.require path)
    | none => some (.unknownField name path)
  | .typed token =>
    match catalog.find? name with
    | some collection => error? (typedClause collection token)
    | none => some (.unknownField name token.field)

end Demand

/-! ## Single checks -/

/-- A collection is found under its own name. -/
theorem name_of_find? {catalog : Catalog} {name : String} {collection : Collection}
    (h : catalog.find? name = some collection) : collection.name = name := by
  simpa using List.find?_some h

theorem require_eq_ok_iff {catalog : Catalog} {name : String} {collection : Collection} :
    catalog.require name = .ok collection ↔ catalog.find? name = some collection := by
  rw [Catalog.require]
  cases catalog.find? name <;> simp

/-- A path passes exactly when it begins with a declared field. -/
theorem require_path_eq_ok_iff {collection : Collection} {path : String} {field : FieldInfo} :
    collection.require path = .ok field ↔ collection.Declares path field := by
  rw [Collection.require, ← field?_eq_some_iff]
  cases collection.field? path <;> simp

/-- A token without a clause is told its missing field, or else its operand. -/
theorem error_of_typedClause {collection : Collection} {token : Token} {e : QueryError}
    (he : typedClause collection token = .error e) :
    e = match collection.field? token.field with
      | some field => .invalidOperand token.field token.operand field.kind.operandKind.name
      | none => .unknownField collection.name token.field := by
  rw [typedClause] at he
  split at he
  · cases he
  · rename_i error hread
    obtain rfl := Except.error.inj he
    cases hfield : collection.field? token.field with
    | some field => exact error_of_readOperand (field?_eq_some_iff.1 hfield) hread
    | none =>
      rw [Collection.readOperand, Collection.require, hfield] at hread
      exact (Except.error.inj hread).symm

namespace Demand

variable {catalog : Catalog} {name : String}

/-- A check passes exactly when its demand is met. -/
theorem check_eq_none_iff {demand : Demand} : demand.check catalog name = none ↔ demand.Met catalog name := by
  cases demand with
  | listed => simp only [check, Met, error?_eq_none_iff, require_eq_ok_iff]
  | control param value => simp [check, Met, isValid_iff]
  | declared path =>
    unfold check Met
    cases hfind : catalog.find? name with
    | none => simp
    | some collection => simp [error?_eq_none_iff, require_path_eq_ok_iff]
  | typed token =>
    unfold check Met
    cases hfind : catalog.find? name with
    | none => simp
    | some collection => simp [error?_eq_none_iff, typedClause_eq_ok_iff]

/-- A check that fails tells the fault of its demand. -/
theorem fault_of_check {demand : Demand} {e : QueryError} (he : demand.check catalog name = some e) :
    e = demand.fault catalog name := by
  cases demand with
  | listed =>
    have hrequire := error?_eq_some_iff.1 he
    rw [Catalog.require] at hrequire
    split at hrequire
    · cases hrequire
    · exact (Except.error.inj hrequire).symm
  | control param value =>
    simp only [check] at he
    split at he
    · cases he
    · exact (Option.some.inj he).symm
  | declared path =>
    cases hfind : catalog.find? name with
    | none =>
      simp only [check, hfind] at he
      exact (Option.some.inj he).symm
    | some collection =>
      simp only [check, hfind, error?_eq_some_iff, Collection.require] at he
      split at he
      · cases he
      · rw [fault, ← name_of_find? hfind]
        exact (Except.error.inj he).symm
  | typed token =>
    cases hfind : catalog.find? name with
    | none =>
      simp only [check, hfind] at he
      simp only [fault, hfind]
      exact (Option.some.inj he).symm
    | some collection =>
      simp only [check, hfind, error?_eq_some_iff] at he
      simp only [fault, hfind, error_of_typedClause he, name_of_find? hfind]
      rfl

/-- A check fails with a fault exactly when its demand is not met and has that fault. -/
theorem check_eq_some_iff {demand : Demand} {e : QueryError} :
    demand.check catalog name = some e ↔ ¬ demand.Met catalog name ∧ demand.fault catalog name = e := by
  rw [← check_eq_none_iff]
  constructor
  · intro he
    exact ⟨by simp [he], (fault_of_check he).symm⟩
  · rintro ⟨hsome, rfl⟩
    obtain ⟨e, he⟩ := Option.ne_none_iff_exists'.1 hsome
    rw [he, fault_of_check he]

end Demand

/-! ## All checks -/

/-- Paths are told the first that begins with no declared field. -/
theorem error?_requireAll {collection : Collection} {paths : List String} :
    error? (requireAll collection paths) = paths.findSome? fun path => error? (collection.require path) := by
  induction paths with
  | nil => rfl
  | cons path paths ih =>
    rw [requireAll, List.findSome?_cons]
    cases collection.require path with
    | ok field => exact ih
    | error e => rfl

/-- Tokens are told the first that has no clause. -/
theorem error?_typedClauses {collection : Collection} {tokens : List Token} :
    error? (typedClauses collection tokens) = tokens.findSome? fun token => error? (typedClause collection token) := by
  induction tokens with
  | nil => rfl
  | cons token tokens ih =>
    rw [typedClauses, List.findSome?_cons]
    cases typedClause collection token with
    | error e => rfl
    | ok clause => exact (error?_bind_ok _ (clause :: ·)).trans ih

/-- Control parameters are told the first that is not valid. -/
theorem findSome?_controls (catalog : Catalog) (name : String) (params : List (String × String)) :
    (params.flatMap controlText).findSome? (fun (param, value) => Demand.check catalog name (.control param value)) =
      error? (Control.read params) := by
  rw [Control.error?_read]
  induction params with
  | nil => rfl
  | cons param params ih =>
    rw [List.flatMap_cons, List.findSome?_append, List.findSome?_cons, ih]
    cases hname : Control.name? param.1 with
    | none => simp [controlText, Control.fault?, hname]
    | some control =>
      simp only [controlText, Control.fault?, Demand.check, hname, Option.map_some, Option.toList_some,
        List.findSome?_singleton]
      split <;> rfl

/-- The paths that are checked are those that the control parameters name. -/
theorem paths_of_read {params : List (String × String)} {control : Control} (h : Control.read params = .ok control) :
    control.included ++ control.excluded ++ control.existing ++ control.sort.map SortKey.field =
      (Asked.ofParams params).paths := by
  obtain ⟨-, rfl⟩ := Control.read_eq_ok_iff.1 h
  simp [Control.after, Control.default, Asked.paths, Asked.ofParams, Function.comp_def]

/-- A request is told the first check that fails. -/
theorem error?_compile (catalog : Catalog) (name : String) (params : List (String × String)) :
    error? (compile catalog name params) = (Asked.ofParams params).demands.findSome? (Demand.check catalog name) := by
  have hlisted : [Demand.listed].findSome? (Demand.check catalog name) = error? (catalog.require name) := by
    simp [Demand.check]
  have hcontrols : (Asked.ofParams params).controls.findSome?
      (Demand.check catalog name ∘ fun (param, value) => .control param value) = error? (Control.read params) :=
    findSome?_controls catalog name params
  rw [compile, Asked.demands]
  simp only [List.findSome?_append, List.findSome?_map, hlisted, hcontrols, Option.or_assoc]
  apply error?_bind
  intro collection hcollection
  have hfind := require_eq_ok_iff.1 hcollection
  have hpaths : Demand.check catalog name ∘ .declared = fun path => error? (collection.require path) := by
    funext path
    simp [Demand.check, hfind]
  have htokens : Demand.check catalog name ∘ .typed = fun token => error? (typedClause collection token) := by
    funext token
    simp [Demand.check, hfind]
  rw [hpaths, htokens, ← error?_requireAll, ← error?_typedClauses]
  apply error?_bind
  intro control hcontrol
  rw [← paths_of_read hcontrol]
  apply error?_bind
  intro _ _
  exact error?_bind_ok _ _

/-! ## Outcomes -/

/-- The clauses of a compiled plan are those that its tokens become. -/
theorem forall₂_clauseOf_of_compile {catalog : Catalog} {name : String} {params : List (String × String)} {plan : Plan}
    (h : compile catalog name params = .ok plan) :
    ∃ collection, catalog.find? name = some collection ∧
      List.Forall₂ (ClauseOf collection) (filterTokens params) plan.filters := by
  obtain ⟨collection, control, filters, hcollection, -, -, hfilters, rfl⟩ := exists_of_compile h
  exact ⟨collection, require_eq_ok_iff.1 hcollection, typedClauses_eq_ok_iff.1 hfilters⟩

/-- The page of a compiled plan has room, and none for more than the largest size. -/
theorem limit_of_compile {catalog : Catalog} {name : String} {params : List (String × String)} {plan : Plan}
    (h : compile catalog name params = .ok plan) : 1 ≤ plan.limit ∧ plan.limit ≤ 10000 := by
  obtain ⟨collection, control, filters, -, hcontrol, -, -, rfl⟩ := exists_of_compile h
  exact Control.limit_bounds hcontrol

/-- Clauses that tokens become have scalars to compare with. -/
theorem isScalar_of_forall₂ {collection : Collection} {tokens : List Token} {clauses : List Clause}
    (h : List.Forall₂ (ClauseOf collection) tokens clauses) : ∀ clause ∈ clauses, IsScalar clause.operand := by
  induction h with
  | nil =>
    intro clause hclause
    cases hclause
  | cons hclause _ ih =>
    obtain ⟨field, -, hoperand⟩ := hclause.operand
    intro clause hmem
    rcases List.mem_cons.1 hmem with rfl | hmem
    · exact hoperand.isScalar
    · exact ih clause hmem

/-- A request asks for one thing only. It is compiled exactly when all demands of what it asks for are met, and is otherwise
refused for the first that is not. A compiled plan has a page of one to ten thousand documents, and for each comparison that is
asked for, in their order, the clause that it becomes. -/
theorem compile_outcome (catalog : Catalog) (name : String) (params : List (String × String)) :
    ∃ asked, Asks params asked ∧ (∀ other, Asks params other → other = asked) ∧
      ((∃ plan, compile catalog name params = .ok plan) ↔ ∀ demand ∈ asked.demands, demand.Met catalog name) ∧
      (∀ e, compile catalog name params = .error e ↔
        ∃ before demand after, asked.demands = before ++ demand :: after ∧ (∀ met ∈ before, met.Met catalog name) ∧
          ¬ demand.Met catalog name ∧ demand.fault catalog name = e) ∧
      ∀ plan, compile catalog name params = .ok plan →
        1 ≤ plan.limit ∧ plan.limit ≤ 10000 ∧
        (∃ collection, catalog.find? name = some collection ∧
          List.Forall₂ (ClauseOf collection) asked.tokens plan.filters) ∧
        ∀ clause ∈ plan.filters, IsScalar clause.operand := by
  refine ⟨Asked.ofParams params, asks_iff.2 rfl, fun _ hother => asks_iff.1 hother, ?_, ?_, ?_⟩
  · rw [← error?_eq_none_iff, error?_compile, List.findSome?_eq_none_iff]
    simp only [Demand.check_eq_none_iff]
  · intro e
    rw [← error?_eq_some_iff, error?_compile, List.findSome?_eq_some_iff]
    simp only [Demand.check_eq_none_iff, Demand.check_eq_some_iff]
    constructor
    · rintro ⟨before, demand, after, hsplit, ⟨hunmet, hfault⟩, hbefore⟩
      exact ⟨before, demand, after, hsplit, hbefore, hunmet, hfault⟩
    · rintro ⟨before, demand, after, hsplit, hbefore, hunmet, hfault⟩
      exact ⟨before, demand, after, hsplit, ⟨hunmet, hfault⟩, hbefore⟩
  · intro plan hplan
    obtain ⟨hleast, hgreatest⟩ := limit_of_compile hplan
    obtain ⟨collection, hfind, hclauses⟩ := forall₂_clauseOf_of_compile hplan
    exact ⟨hleast, hgreatest, ⟨collection, hfind, hclauses⟩, isScalar_of_forall₂ hclauses⟩

/-- Of three faults the one of the control parameter is told, though it comes last in the request. A path that is to be shown,
between white space and behind another, is refused if it is not declared. And without faults the factions of a range are found
in pages of at most ten thousand. -/
theorem compile_outcome_factions :
    compile Catalog.builtin "faction" [("size", "1"), ("c:show", "size"), ("c:limit", "0")] =
      .error (.invalidControl "limit" "0") ∧
    compile Catalog.builtin "faction" [("c:show", "faction_id, no_such_field ,")] =
      .error (.unknownField "faction" "no_such_field") ∧
    ∃ plan, compile Catalog.builtin "faction" [("faction_id", "]3,<7"), ("c:limit", "20000")] = .ok plan ∧
      plan.limit ≤ 10000 ∧ plan.filters.length = 2 := by
  refine ⟨?_, ?_, ?_⟩
  · obtain ⟨asked, hasks, -, -, herror, -⟩ :=
      compile_outcome Catalog.builtin "faction" [("size", "1"), ("c:show", "size"), ("c:limit", "0")]
    obtain rfl := asks_iff.1 hasks
    refine (herror _).2 ⟨[.listed, .control "show" "size"], .control "limit" "0",
      [.declared "size", .typed ⟨"size", .eq, "1"⟩], rfl, ?_, ?_, rfl⟩
    · rw [List.forall_mem_cons, List.forall_mem_singleton]
      exact ⟨⟨Catalog.faction, rfl⟩, .list (by decide)⟩
    · have hinvalid : ¬ Control.isValid "limit" "0" = true := by decide
      rwa [isValid_iff] at hinvalid
  · obtain ⟨asked, hasks, -, -, herror, -⟩ :=
      compile_outcome Catalog.builtin "faction" [("c:show", "faction_id, no_such_field ,")]
    obtain rfl := asks_iff.1 hasks
    refine (herror _).2 ⟨[.listed, .control "show" "faction_id, no_such_field ,", .declared "faction_id"],
      .declared "no_such_field", [], rfl, ?_, ?_, rfl⟩
    · rw [List.forall_mem_cons, List.forall_mem_cons, List.forall_mem_singleton]
      refine ⟨⟨Catalog.faction, rfl⟩, .list (by decide), Catalog.faction, ⟨"faction_id", .integer⟩, rfl, ?_⟩
      unfold Collection.Declares
      decide
    · rintro ⟨collection, field, hfind, hfield⟩
      obtain rfl := Option.some.inj (hfind.symm.trans (show Catalog.builtin.find? "faction" = some Catalog.faction from rfl))
      have hnone : Catalog.faction.fields.find? (·.name == firstSegment "no_such_field") = none := by decide
      nomatch hnone.symm.trans hfield
  · obtain ⟨asked, hasks, -, haccepted, -, hplans⟩ :=
      compile_outcome Catalog.builtin "faction" [("faction_id", "]3,<7"), ("c:limit", "20000")]
    obtain rfl := asks_iff.1 hasks
    have hisOk : (compile Catalog.builtin "faction" [("faction_id", "]3,<7"), ("c:limit", "20000")]).isOk = true := rfl
    cases hplan : compile Catalog.builtin "faction" [("faction_id", "]3,<7"), ("c:limit", "20000")] with
    | error e =>
      rw [hplan] at hisOk
      cases hisOk
    | ok plan =>
      obtain ⟨-, hlimit, ⟨collection, -, hclauses⟩, -⟩ := hplans plan hplan
      exact ⟨plan, rfl, hlimit, hclauses.length_eq.symm⟩

end SheetQuery.Query
