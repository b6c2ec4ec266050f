import SheetQuery.Json.Path
import SheetQuery.Proofs.Outcome
import SheetQuery.Query.Compile

/-!
# Compiled plans

What a plan that comes from a request is known to be like: where its parts come from, that every path in it begins with a
declared field, and that no operand in it is null.
-/

namespace SheetQuery.Query

/-! ## Paths -/

/-- Paths that pass the check all begin with a declared field. -/
theorem exists_field_of_requireAll {collection : Collection} {paths : List String}
    (h : requireAll collection paths = .ok ()) : ∀ path ∈ paths, ∃ field, collection.require path = .ok field := by
  induction paths with
  | nil => exact fun path hpath => nomatch hpath
  | cons first paths ih =>
    rw [requireAll] at h
    cases hfirst : collection.require first with
    | error e => rw [hfirst] at h; nomatch h
    | ok field =>
      rw [hfirst] at h
      intro path hpath
      rcases List.mem_cons.1 hpath with rfl | hpath
      · exact ⟨field, hfirst⟩
      · exact ih h path hpath

/-- The member of the store is no declared field of any collection, so that no path that leads into it passes the check. -/
theorem require_of_pathKeys {collection : Collection} (h : collection ∈ Catalog.builtin) {path : String}
    {keys : List String} (hpath : Json.pathKeys path = storeIdField :: keys) (field : FieldInfo) :
    collection.require path ≠ .ok field := by
  have hnone : ∀ collection ∈ Catalog.builtin, collection.fields.find? (·.name == storeIdField) = none := by decide
  have hfield : collection.field? path = collection.fields.find? (·.name == storeIdField) := by
    rw [Json.pathKeys] at hpath
    rw [Collection.field?, hpath]
    rfl
  rw [Collection.require, hfield, hnone collection h]
  exact fun he => nomatch he

/-! ## Operands -/

theorem ofInt?_ne_null {i : Int} {value : Json} (h : Json.ofInt? i = some value) : value ≠ .null := by
  rw [Json.ofInt?] at h
  split at h
  · obtain rfl := Option.some.inj h
    exact fun he => nomatch he
  · nomatch h

theorem readFinite?_ne_null {raw : String} {operand : Json} (h : FieldKind.readFinite? raw = some operand) :
    operand ≠ .null := by
  rw [FieldKind.readFinite?] at h
  split at h
  · obtain rfl := Option.some.inj h
    exact fun he => nomatch he
  · nomatch h

theorem readWord?_ne_null {raw : String} {operand : Json} (h : FieldKind.readWord? raw = some operand) :
    operand ≠ .null := by
  rw [FieldKind.readWord?] at h
  split at h
  · exact ofInt?_ne_null h
  · split at h
    · exact ofInt?_ne_null h
    · nomatch h

/-- No operand that is read as a value of a kind is null. -/
theorem readOperand?_ne_null {raw : String} {kind : FieldKind} {operand : Json}
    (h : kind.readOperand? raw = some operand) : operand ≠ .null := by
  induction kind with
  | integer => exact readWord?_ne_null h
  | float => exact readFinite?_ne_null h
  | truth =>
    rw [FieldKind.readOperand?] at h
    split at h
    · obtain rfl := Option.some.inj h
      exact fun he => nomatch he
    · split at h
      · obtain rfl := Option.some.inj h
        exact fun he => nomatch he
      · nomatch h
  | string =>
    obtain rfl := Option.some.inj h
    exact fun he => nomatch he
  | object =>
    obtain rfl := Option.some.inj h
    exact fun he => nomatch he
  | array element ih => exact ih h

/-- No bound of a comparison is null. -/
theorem boundOf?_ne_null {kind : FieldKind} {operator : Operator} {raw : String} {operand : Json}
    (h : Collection.boundOf? kind operator raw = some operand) : operand ≠ .null := by
  unfold Collection.boundOf? at h
  split at h
  · rename_i value hvalue
    obtain rfl := Option.some.inj h
    exact readOperand?_ne_null hvalue
  · split at h
    · split at h
      · exact readFinite?_ne_null h
      · nomatch h
    · nomatch h

/-- No operand of a comparison is null. -/
theorem readOperand_ne_null {collection : Collection} {path raw : String} {operator : Operator} {operand : Json}
    (h : collection.readOperand path operator raw = .ok operand) : operand ≠ .null := by
  rw [Collection.readOperand] at h
  split at h
  · nomatch h
  · split at h
    · obtain rfl := Except.ok.inj h
      exact fun he => nomatch he
    · split at h
      · rename_i value hvalue
        obtain rfl := Except.ok.inj h
        exact boundOf?_ne_null hvalue
      · nomatch h

theorem operand_ne_null_of_typedClause {collection : Collection} {token : Token} {clause : Clause}
    (h : typedClause collection token = .ok clause) : clause.operand ≠ .null := by
  rw [typedClause] at h
  split at h
  · rename_i operand hread
    obtain rfl := Except.ok.inj h
    exact readOperand_ne_null hread
  · nomatch h

/-- The comparisons of a request have no null operands. -/
theorem operand_ne_null_of_typedClauses {collection : Collection} {tokens : List Token} {clauses : List Clause}
    (h : typedClauses collection tokens = .ok clauses) : ∀ clause ∈ clauses, clause.operand ≠ .null := by
  induction tokens generalizing clauses with
  | nil =>
    obtain rfl := Except.ok.inj h
    exact fun clause hclause => nomatch hclause
  | cons token tokens ih =>
    rw [typedClauses] at h
    obtain ⟨first, hfirst, h⟩ := exists_of_bind_ok h
    obtain ⟨rest, hrest, h⟩ := exists_of_bind_ok h
    obtain rfl := Except.ok.inj h
    intro clause hclause
    rcases List.mem_cons.1 hclause with rfl | hclause
    · exact operand_ne_null_of_typedClause hfirst
    · exact ih hrest clause hclause

/-! ## Plans -/

/-- Where the parts of a compiled plan come from. -/
theorem exists_of_compile {catalog : Catalog} {name : String} {params : List (String × String)} {plan : Plan}
    (h : compile catalog name params = .ok plan) :
    ∃ collection control filters, catalog.require name = .ok collection ∧ Control.read params = .ok control ∧
      requireAll collection
        (control.included ++ control.excluded ++ control.existing ++ control.sort.map SortKey.field) = .ok () ∧
      typedClauses collection (filterTokens params) = .ok filters ∧
      plan = ⟨collection.name, filters, control.existing, ⟨control.included, control.excluded⟩, control.sort,
        control.start, control.limit, Enrichment.ofCollection? collection.name, control.timing⟩ := by
  rw [compile] at h
  obtain ⟨collection, hcollection, h⟩ := exists_of_bind_ok h
  obtain ⟨control, hcontrol, h⟩ := exists_of_bind_ok h
  obtain ⟨_, hrequire, h⟩ := exists_of_bind_ok h
  obtain ⟨filters, hfilters, h⟩ := exists_of_bind_ok h
  exact ⟨collection, control, filters, hcollection, hcontrol, hrequire, hfilters, (Except.ok.inj h).symm⟩

/-- A request whose parts are all well is compiled. -/
theorem compile_eq {catalog : Catalog} {name : String} {params : List (String × String)} {collection : Collection}
    {control : Control} {filters : List Clause} (hcollection : catalog.require name = .ok collection)
    (hcontrol : Control.read params = .ok control)
    (hrequire : requireAll collection
      (control.included ++ control.excluded ++ control.existing ++ control.sort.map SortKey.field) = .ok ())
    (hfilters : typedClauses collection (filterTokens params) = .ok filters) :
    compile catalog name params = .ok ⟨collection.name, filters, control.existing, ⟨control.included, control.excluded⟩,
      control.sort, control.start, control.limit, Enrichment.ofCollection? collection.name, control.timing⟩ := by
  rw [compile, hcollection, hcontrol]
  simp only [bind, Except.bind, hrequire, hfilters]
  rfl

/-- A request that names no field to filter by is compiled to what its control parameters say. -/
theorem compile_unfiltered {catalog : Catalog} {name : String} {params : List (String × String)} {collection : Collection}
    {control : Control} (hcollection : (catalog.require name).toOption = some collection)
    (hcontrol : (Control.read params).toOption = some control)
    (hrequire : (requireAll collection
      (control.included ++ control.excluded ++ control.existing ++ control.sort.map SortKey.field)).toOption = some ())
    (htokens : filterTokens params = []) :
    compile catalog name params = .ok ⟨collection.name, [], control.existing, ⟨control.included, control.excluded⟩,
      control.sort, control.start, control.limit, Enrichment.ofCollection? collection.name, control.timing⟩ := by
  have hok : ∀ {ε α : Type} {x : Except ε α} {a : α}, x.toOption = some a → x = .ok a := by
    intro ε α x a hx
    cases x with
    | error e => nomatch hx
    | ok b => exact congrArg Except.ok (Option.some.inj hx)
  have hfilters : typedClauses collection (filterTokens params) = .ok [] := by
    rw [htokens]
    rfl
  exact compile_eq (hok hcollection) (hok hcontrol) (hok hrequire) hfilters

/-- No comparison of a compiled plan has a null operand. -/
theorem operand_ne_null_of_compile {catalog : Catalog} {name : String} {params : List (String × String)} {plan : Plan}
    (h : compile catalog name params = .ok plan) : ∀ clause ∈ plan.filters, clause.operand ≠ .null := by
  obtain ⟨collection, control, filters, -, -, -, hfilters, rfl⟩ := exists_of_compile h
  exact operand_ne_null_of_typedClauses hfilters

/-- A collection that is found in a catalog is one of it. -/
theorem mem_of_require {catalog : Catalog} {name : String} {collection : Collection}
    (h : catalog.require name = .ok collection) : collection ∈ catalog := by
  rw [Catalog.require] at h
  cases hfind : Catalog.find? catalog name with
  | none => rw [hfind] at h; nomatch h
  | some found =>
    rw [hfind] at h
    obtain rfl := Except.ok.inj h
    exact List.mem_of_find?_eq_some hfind

/-- No path that a compiled plan shows or hides leads into the member of the store. -/
theorem pathKeys_ne_of_compile {name : String} {params : List (String × String)} {plan : Plan}
    (h : compile Catalog.builtin name params = .ok plan) :
    ∀ path ∈ plan.projection.included ++ plan.projection.excluded, ∀ keys, Json.pathKeys path ≠ storeIdField :: keys := by
  obtain ⟨collection, control, filters, hcollection, -, hrequire, -, rfl⟩ := exists_of_compile h
  intro path hpath keys hkeys
  have hnamed : path ∈ control.included ++ control.excluded ++ control.existing ++ control.sort.map SortKey.field :=
    List.mem_append_left _ (List.mem_append_left _ hpath)
  obtain ⟨field, hfield⟩ := exists_field_of_requireAll hrequire path hnamed
  exact require_of_pathKeys (mem_of_require hcollection) hkeys field hfield

/-- No compiled plan shows or hides the member of the store itself. -/
theorem storeIdField_not_mem_of_compile {name : String} {params : List (String × String)} {plan : Plan}
    (h : compile Catalog.builtin name params = .ok plan) :
    storeIdField ∉ plan.projection.included ∧ storeIdField ∉ plan.projection.excluded := by
  have hkeys : Json.pathKeys storeIdField = [storeIdField] := by decide
  constructor
  · intro hi
    exact pathKeys_ne_of_compile h storeIdField (List.mem_append_left _ hi) [] hkeys
  · intro he
    exact pathKeys_ne_of_compile h storeIdField (List.mem_append_right _ he) [] hkeys

/-- Plans of one collection are run on the same documents and enriched in the same way. -/
theorem collection_eq_of_compile {catalog : Catalog} {name : String} {params params' : List (String × String)}
    {plan plan' : Plan} (h : compile catalog name params = .ok plan) (h' : compile catalog name params' = .ok plan') :
    plan.collection = plan'.collection ∧ plan.enrichment = plan'.enrichment := by
  obtain ⟨collection, control, filters, hcollection, -, -, -, rfl⟩ := exists_of_compile h
  obtain ⟨collection', control', filters', hcollection', -, -, -, rfl⟩ := exists_of_compile h'
  obtain rfl := Except.ok.inj (hcollection.symm.trans hcollection')
  exact ⟨rfl, rfl⟩

/-- Only the links of fire groups are attached by a compiled plan. -/
theorem enrichment_of_compile {catalog : Catalog} {name : String} {params : List (String × String)} {plan : Plan}
    (h : compile catalog name params = .ok plan) {enrichment : Enrichment} (he : plan.enrichment = some enrichment) :
    enrichment = .fireGroup := by
  obtain ⟨collection, control, filters, -, -, -, -, rfl⟩ := exists_of_compile h
  dsimp only [Enrichment.ofCollection?] at he
  split at he
  · exact (Option.some.inj he).symm
  · nomatch he

/-- The documents of a compiled plan are linked by one of their members. -/
theorem localField_of_compile {catalog : Catalog} {name : String} {params : List (String × String)} {plan : Plan}
    (h : compile catalog name params = .ok plan) {enrichment : Enrichment} (he : plan.enrichment = some enrichment) :
    Json.pathKeys enrichment.localField = [enrichment.localField] := by
  obtain rfl := enrichment_of_compile h he
  decide

end SheetQuery.Query
