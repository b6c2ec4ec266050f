import SheetQuery.Proofs.Query.Operand
import SheetQuery.Proofs.Store.Paging

/-!
# Comparisons with one operand

Equality and order are decided by different functions, the one on the values as they are written and the other on their
places. For an operand without parts they are two readings of one thing: how the value compares with the operand, if it
compares at all (`equalValues_eq_ordered`). Every comparison but `ne` accepts some of the three orders, for the value or for
one item of an array (`compares_eq_anyElement`), so how the comparisons go together is what these sets of orders say
(`compares_coherent`).
-/

namespace SheetQuery

open Query

namespace Json

/-- A value without parts: null, a truth value, a number or a text. -/
def Plain (value : Json) : Prop :=
  value = .null ∨ IsScalar value

/-- Whether this is an array. -/
def isArr : Json → Bool
  | .arr _ => true
  | _ => false

variable {operand : Json}

/-- A value compares with one without parts exactly when the two have one type. -/
theorem isSome_compareScalars (h : operand.Plain) (value : Json) :
    (compareScalars value operand).isSome = true ↔ value.typeRank = operand.typeRank := by
  rcases h with rfl | h
  · cases value <;> simp [compareScalars, typeRank]
  · cases operand with
    | null | arr | obj => exact h.elim
    | bool | num | str => cases value <;> simp [compareScalars, typeRank]

/-- A value of the type of one without parts is no array. -/
theorem isArr_eq_false_of_typeRank_eq (h : operand.Plain) {value : Json} (hrank : value.typeRank = operand.typeRank) :
    value.isArr = false := by
  cases value with
  | arr items =>
    rw [← isSome_compareScalars h] at hrank
    simp [compareScalars] at hrank
  | null | bool | num | str | obj => rfl

/-- A value is equal to one without parts exactly when it compares as equal with it. -/
theorem equalValues_eq_compareScalars (h : operand.Plain) (value : Json) :
    value.equalValues operand = (compareScalars value operand == some .eq) := by
  rcases h with rfl | h
  · cases value <;> rfl
  · cases operand with
    | null | arr | obj => exact h.elim
    | bool b =>
      cases value with
      | bool a => cases a <;> cases b <;> rfl
      | null | num | str | arr | obj => rfl
    | num b => cases value <;> rfl
    | str b =>
      cases value with
      | str a =>
        rw [Bool.eq_iff_iff]
        simp [equalValues, same, compareScalars, Std.LawfulEqCmp.compare_eq_iff_eq]
      | null | bool | num | arr | obj => rfl

end Json

namespace Store

open Json

/-! ## Orders that a comparison accepts -/

/-- The comparisons that hold for some orders of the value to the operand. What differs is not one of them: it holds where
nothing is equal. -/
def orderOperators : List Operator :=
  [.eq, .lt, .lte, .gt, .gte]

/-- The comparisons of which at most one holds of one value. -/
def exclusiveOperators : List Operator :=
  [.lt, .eq, .gt]

/-- The orders for which a comparison holds. -/
def acceptedOrder : Operator → Ordering → Bool
  | .eq => Ordering.isEq
  | .lt => Ordering.isLT
  | .lte => Ordering.isLE
  | .gt => Ordering.isGT
  | .gte => Ordering.isGE
  | .ne | .regexAnchored | .regexContains => fun _ => false

/-- For every order one of the exclusive comparisons holds, and only one. -/
theorem existsUnique_acceptedOrder (order : Ordering) :
    ∃! operator, operator ∈ exclusiveOperators ∧ acceptedOrder operator order = true := by
  cases order with
  | lt => exact ⟨.lt, by decide, by rintro (_ | _) <;> decide⟩
  | eq => exact ⟨.eq, by decide, by rintro (_ | _) <;> decide⟩
  | gt => exact ⟨.gt, by decide, by rintro (_ | _) <;> decide⟩

theorem anyElement_or (first second : Json → Bool) (value : Option Json) :
    anyElement (fun v => first v || second v) value = (anyElement first value || anyElement second value) := by
  cases value with
  | none => rfl
  | some value =>
    cases value with
    | arr items =>
      rw [Bool.eq_iff_iff]
      simp only [anyElement, Bool.or_eq_true, List.any_eq_true, and_or_left, exists_or]
    | null | bool | num | str | obj => rfl

/-- What holds of a value that is not an array holds of it and of no item. -/
theorem anyElement_eq_any {test : Json → Bool} {value : Option Json} (h : value.any isArr = false) :
    anyElement test value = value.any test := by
  cases value with
  | none => rfl
  | some value =>
    cases value with
    | arr items => simp [isArr] at h
    | null | bool | num | str | obj => rfl

theorem ordered_eq_any (accept : Ordering → Bool) (operand value : Json) :
    ordered accept operand value = (compareScalars value operand).any accept := by
  unfold ordered
  cases compareScalars value operand <;> rfl

theorem ordered_or (first second : Ordering → Bool) (operand value : Json) :
    ordered (fun order => first order || second order) operand value =
      (ordered first operand value || ordered second operand value) := by
  simp only [ordered_eq_any]
  cases compareScalars value operand <;> rfl

variable {operand : Json}

/-- Equality is one of the orders. -/
theorem equalValues_eq_ordered (h : operand.Plain) (value : Json) :
    value.equalValues operand = ordered Ordering.isEq operand value := by
  rw [equalValues_eq_compareScalars h, ordered_eq_any]
  cases compareScalars value operand with
  | none => rfl
  | some order => cases order <;> rfl

/-! ## Comparisons of a document -/

section Documents

variable [PatternEngine]

/-- Whether a comparison with an operand holds of what is at a field of a document. -/
def compares (document : Json) (field : String) (operand : Json) (operator : Operator) : Bool :=
  clauseHolds document ⟨field, operator, operand⟩

variable {document : Json} {field : String} {operator : Operator}

theorem compares_eq_holdsAt (h : operator.isRegex = false) :
    compares document field operand operator =
      Condition.holdsAt ⟨⟨field, operator, operand⟩, none⟩ (document.lookup field) := by
  unfold compares clauseHolds Condition.ofClause
  simp [h, Condition.holds]

/-- What differs is what is not equal, be it missing or an array. -/
theorem compares_ne (document : Json) (field : String) (operand : Json) :
    compares document field operand .ne = !compares document field operand .eq := by
  rw [compares_eq_holdsAt rfl, compares_eq_holdsAt rfl]
  rfl

/-- A comparison by orders holds when the value, or one item of it, has an order to the operand that it accepts. -/
theorem compares_eq_anyElement (h : operand.Plain) (hop : operator ∈ orderOperators) :
    compares document field operand operator =
      anyElement (ordered (acceptedOrder operator) operand) (document.lookup field) := by
  cases operator with
  | eq =>
    rw [compares_eq_holdsAt rfl]
    exact congrArg (anyElement · _) (funext (equalValues_eq_ordered h))
  | lt | lte | gt | gte => exact compares_eq_holdsAt rfl
  | ne | regexAnchored | regexContains => exact absurd hop (by decide)

/-- A comparison that accepts what two others accept holds when one of them does. -/
theorem compares_or (h : operand.Plain) (first second : Operator) (hop : operator ∈ orderOperators)
    (hfirst : first ∈ orderOperators) (hsecond : second ∈ orderOperators)
    (heither : ∀ order, acceptedOrder operator order = (acceptedOrder first order || acceptedOrder second order)) :
    compares document field operand operator =
      (compares document field operand first || compares document field operand second) := by
  rw [compares_eq_anyElement h hop, compares_eq_anyElement h hfirst, compares_eq_anyElement h hsecond, ← anyElement_or,
    funext heither]
  exact congrArg (anyElement · _) (funext (ordered_or _ _ _))

/-- A comparison by orders holds of a value that is not an array when the value has an order to the operand and the
comparison accepts it. -/
theorem compares_eq_any (h : operand.Plain) (hsingle : (document.lookup field).any isArr = false)
    (hop : operator ∈ orderOperators) :
    compares document field operand operator =
      ((document.lookup field).bind (compareScalars · operand)).any (acceptedOrder operator) := by
  rw [compares_eq_anyElement h hop, anyElement_eq_any hsingle, funext (ordered_eq_any (acceptedOrder operator) operand),
    Option.any_bind]
  rfl

variable {value : Json}

/-- A value of the type of the operand has an order to it, which decides all comparisons by orders. -/
theorem exists_order_of_typeRank_eq (h : operand.Plain) (hvalue : document.lookup field = some value)
    (hrank : value.typeRank = operand.typeRank) :
    ∃ order, ∀ operator ∈ orderOperators, compares document field operand operator = acceptedOrder operator order := by
  obtain ⟨order, horder⟩ := Option.isSome_iff_exists.1 ((isSome_compareScalars h value).2 hrank)
  have hsingle : (document.lookup field).any isArr = false := by
    rw [hvalue]
    exact isArr_eq_false_of_typeRank_eq h hrank
  refine ⟨order, fun operator hop => ?_⟩
  rw [compares_eq_any h hsingle hop, hvalue, Option.bind_some, horder]
  rfl

/-- What is missing or of another type than the operand has no order to it. -/
theorem compares_eq_false_of_typeRank_ne (h : operand.Plain) (hsingle : (document.lookup field).any isArr = false)
    (hrank : ∀ v, document.lookup field = some v → v.typeRank ≠ operand.typeRank) (hop : operator ∈ orderOperators) :
    compares document field operand operator = false := by
  have hnone : (document.lookup field).bind (compareScalars · operand) = none := by
    rw [Option.bind_eq_none_iff]
    intro v hv
    rw [← Option.not_isSome_iff_eq_none, isSome_compareScalars h]
    exact hrank v hv
  rw [compares_eq_any h hsingle hop, hnone]
  rfl

/-- Where there is no array, one order decides all comparisons by orders, or none of them holds. -/
theorem compares_cases (h : operand.Plain) (hsingle : (document.lookup field).any isArr = false) :
    (∃ order, ∀ operator ∈ orderOperators, compares document field operand operator = acceptedOrder operator order) ∨
      ∀ operator ∈ orderOperators, compares document field operand operator = false := by
  by_cases hrank : ∃ v, document.lookup field = some v ∧ v.typeRank = operand.typeRank
  · obtain ⟨v, hv, hrank⟩ := hrank
    exact .inl (exists_order_of_typeRank_eq h hv hrank)
  · exact .inr fun operator => compares_eq_false_of_typeRank_ne h hsingle fun v hv h' => hrank ⟨v, hv, h'⟩

end Documents

/-- How comparisons with one operand go together on the value at a field: which follow from others for every value, and which
exclude each other for one that is not an array. -/
structure Coherent (holds : Operator → Prop) (value : Option Json) (operand : Json) : Prop where
  ne : holds .ne ↔ ¬ holds .eq
  lte : holds .lte ↔ holds .lt ∨ holds .eq
  gte : holds .gte ↔ holds .gt ∨ holds .eq
  eq : value.any isArr = false → (holds .eq ↔ holds .lte ∧ holds .gte)
  atMostOne : value.any isArr = false → ∀ first ∈ exclusiveOperators, ∀ second ∈ exclusiveOperators,
    holds first → holds second → first = second
  exactlyOne : ∀ v, value = some v → v.typeRank = operand.typeRank →
    ∃! operator, operator ∈ exclusiveOperators ∧ holds operator
  otherwise : value.any isArr = false → (∀ v, value = some v → v.typeRank ≠ operand.typeRank) →
    ∀ operator ∈ exclusiveOperators, ¬ holds operator

/-- The comparisons with an operand without parts go together, whatever is at the field. -/
theorem compares_coherent [PatternEngine] (document : Json) (field : String) {operand : Json} (h : operand.Plain) :
    Coherent (fun operator => compares document field operand operator = true) (document.lookup field) operand := by
  have hexclusive : ∀ operator ∈ exclusiveOperators, operator ∈ orderOperators := by decide
  refine ⟨?ne, ?lte, ?gte, ?eq, ?atMostOne, ?exactlyOne, ?otherwise⟩
  case ne => rw [compares_ne, Bool.not_eq_true', Bool.not_eq_true]
  case lte =>
    rw [compares_or h .lt .eq (by decide) (by decide) (by decide) (by rintro (_ | _) <;> rfl), Bool.or_eq_true]
  case gte =>
    rw [compares_or h .gt .eq (by decide) (by decide) (by decide) (by rintro (_ | _) <;> rfl), Bool.or_eq_true]
  case eq =>
    intro hsingle
    rcases compares_cases h hsingle with ⟨order, horder⟩ | hfalse
    · rw [horder .eq (by decide), horder .lte (by decide), horder .gte (by decide)]
      cases order <;> decide
    · rw [hfalse .eq (by decide), hfalse .lte (by decide), hfalse .gte (by decide)]
      decide
  case atMostOne =>
    intro hsingle first hfirst second hsecond hholds hholds'
    rcases compares_cases h hsingle with ⟨order, horder⟩ | hfalse
    · rw [horder first (hexclusive first hfirst)] at hholds
      rw [horder second (hexclusive second hsecond)] at hholds'
      exact (existsUnique_acceptedOrder order).unique ⟨hfirst, hholds⟩ ⟨hsecond, hholds'⟩
    · exact absurd hholds (Bool.eq_false_iff.1 (hfalse first (hexclusive first hfirst)))
  case exactlyOne =>
    intro v hv hrank
    obtain ⟨order, horder⟩ := exists_order_of_typeRank_eq h hv hrank
    refine (existsUnique_congr fun operator => and_congr_right fun hop => ?_).2 (existsUnique_acceptedOrder order)
    rw [horder operator (hexclusive operator hop)]
  case otherwise =>
    intro hsingle hrank operator hop
    exact Bool.eq_false_iff.1 (compares_eq_false_of_typeRank_ne h hsingle hrank (hexclusive operator hop))

/-- The comparisons of the number of a world with a number go together. -/
theorem compares_coherent_world :
    (Json.ofNat 10).Plain ∧
      Coherent (fun operator => compares (.obj [("world_id", .ofNat 1)]) "world_id" (.ofNat 10) operator = true)
        (lookup "world_id" (.obj [("world_id", .ofNat 1)])) (.ofNat 10) :=
  ⟨.inr trivial, compares_coherent _ _ (.inr trivial)⟩

/-- Two numbers of an array can lie on both sides of one that is not in it, so the bounds hold and equality does not. -/
example : compares (.obj [("ids", .arr [.ofNat 1, .ofNat 3])]) "ids" (.ofNat 2) .lte = true ∧
    compares (.obj [("ids", .arr [.ofNat 1, .ofNat 3])]) "ids" (.ofNat 2) .gte = true ∧
    compares (.obj [("ids", .arr [.ofNat 1, .ofNat 3])]) "ids" (.ofNat 2) .eq = false := by
  decide +kernel

end Store

end SheetQuery
