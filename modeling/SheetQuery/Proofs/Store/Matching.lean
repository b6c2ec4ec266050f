import SheetQuery.Proofs.Store.Comparison

/-!
# What a comparison says

A comparison is about the elements at its field: the value there, or the items of the array there, and nothing if the field is
missing. It holds of a document if one of the elements is in the relation to the operand that the operator stands for, and what
differs holds if none is equal (`clauseHolds_iff`). A document satisfies a plan if it has a value other than null at each field
that must exist and every comparison of the plan holds of it (`satisfies_iff`).
-/

namespace SheetQuery.Store

open Json Query

/-- What stands at a field of a document: the value there, or an item of it if it is an array. -/
inductive ElementAt (document : Json) (field : String) (element : Json) : Prop where
  | value (found : document.lookup field = some element) (single : element.isArr = false)
  | item {items : List Json} (found : document.lookup field = some (.arr items)) (mem : element ∈ items)

/-- Something holds of what is at a field if it holds of an element there. -/
theorem anyElement_iff {test : Json → Bool} {document : Json} {field : String} :
    anyElement test (document.lookup field) = true ↔ ∃ element, ElementAt document field element ∧ test element = true := by
  constructor
  · intro h
    cases hfound : document.lookup field with
    | none => rw [hfound] at h; nomatch h
    | some value =>
      rw [hfound] at h
      cases value with
      | arr items =>
        obtain ⟨element, hmem, htest⟩ := List.any_eq_true.1 h
        exact ⟨element, .item hfound hmem, htest⟩
      | null | bool | num | str | obj => exact ⟨_, .value hfound rfl, h⟩
  · rintro ⟨element, hfound | ⟨hfound, hmem⟩, htest⟩
    · rw [hfound]
      cases element with
      | arr items => rename_i single; nomatch single
      | null | bool | num | str | obj => exact htest
    · rw [hfound]
      exact List.any_eq_true.2 ⟨element, hmem, htest⟩

/-- An element contains a pattern if it is a text and the pattern is found in it. -/
theorem containsPattern_iff {isFound : String → Bool} {element : Json} :
    containsPattern isFound element = true ↔ ∃ text, element = .str text ∧ isFound text = true := by
  cases element <;> simp [containsPattern, str?]

variable [PatternEngine]

/-- Whether an element is to an operand as an operator says. Where an order is asked for, the two must have one; a pattern that
is not refused is looked for in a text. -/
def Related (operand element : Json) : Operator → Prop
  | .eq => element.equalValues operand = true
  | .ne => element.equalValues operand = false
  | .lt => compareScalars element operand = some .lt
  | .lte => ∃ order, compareScalars element operand = some order ∧ order ≠ .gt
  | .gt => compareScalars element operand = some .gt
  | .gte => ∃ order, compareScalars element operand = some order ∧ order ≠ .lt
  | .regexAnchored | .regexContains => ∃ text isFound, element = .str text ∧
    PatternEngine.read (operand.str?.getD "") = .ok isFound ∧ isFound text = true

/-- A comparison by order asks for an order that it accepts. -/
theorem related_order_iff {operator : Operator} (h : operator.isRange = true) {operand element : Json} :
    Related operand element operator ↔ ordered (acceptedOrder operator) operand element = true := by
  rw [ordered_eq_any, Option.any_eq_true]
  cases operator with
  | lt => simp [Related, acceptedOrder, Ordering.isLT_iff_eq_lt]
  | lte => simp only [Related, acceptedOrder, Ordering.isLE_iff_ne_gt]
  | gt => simp [Related, acceptedOrder, Ordering.isGT_iff_eq_gt]
  | gte => simp only [Related, acceptedOrder, Ordering.isGE_iff_ne_lt]
  | eq | ne | regexAnchored | regexContains => nomatch h

/-- A pattern is found in one of the elements at its field, if it is not refused. -/
theorem clauseHolds_pattern_iff {document operand : Json} {field : String} {operator : Operator}
    (h : operator.isRegex = true) :
    clauseHolds document ⟨field, operator, operand⟩ = true ↔
      ∃ element, ElementAt document field element ∧ Related operand element operator := by
  have hrelated : ∀ element, Related operand element operator ↔ ∃ text isFound, element = .str text ∧
      PatternEngine.read (operand.str?.getD "") = .ok isFound ∧ isFound text = true := by
    cases operator <;> first | exact fun _ => Iff.rfl | exact absurd h (by decide)
  simp only [hrelated, clauseHolds, Condition.ofClause, h, if_true]
  cases PatternEngine.read (operand.str?.getD "") with
  | error reason => simp
  | ok isFound =>
    have hholds : Condition.holds ⟨⟨field, operator, operand⟩, some isFound⟩ document =
        anyElement (containsPattern isFound) (document.lookup field) := by
      cases operator <;> first | rfl | exact absurd h (by decide)
    simp [hholds, anyElement_iff, containsPattern_iff]

/-- One of the elements at a field has an order to the operand that is accepted. -/
theorem clauseHolds_order_iff {document operand : Json} {field : String} {operator : Operator}
    (h : operator.isRange = true) :
    clauseHolds document ⟨field, operator, operand⟩ = true ↔
      ∃ element, ElementAt document field element ∧ Related operand element operator := by
  have hholds : Condition.holdsAt ⟨⟨field, operator, operand⟩, none⟩ (document.lookup field) =
      anyElement (ordered (acceptedOrder operator) operand) (document.lookup field) := by
    cases operator <;> first | rfl | exact absurd h (by decide)
  show compares document field operand operator = true ↔ _
  simp only [compares_eq_holdsAt (isRegex_of_isRange h), hholds, anyElement_iff, related_order_iff h]

/-- A comparison holds of a document if an element at its field is to its operand as it says; of what differs, if all elements
are, also where there is none. -/
theorem clauseHolds_iff {document : Json} {clause : Clause} :
    clauseHolds document clause = true ↔
      if clause.operator = .ne then ∀ element, ElementAt document clause.field element → Related clause.operand element .ne
      else ∃ element, ElementAt document clause.field element ∧ Related clause.operand element clause.operator := by
  obtain ⟨field, operator, operand⟩ := clause
  cases operator with
  | eq =>
    show compares document field operand .eq = true ↔ _
    rw [compares_eq_holdsAt rfl]
    exact anyElement_iff
  | ne =>
    show compares document field operand .ne = true ↔ _
    have hholds : Condition.holdsAt ⟨⟨field, .ne, operand⟩, none⟩ (document.lookup field) =
        !anyElement (fun v => v.equalValues operand) (document.lookup field) := rfl
    rw [if_pos rfl, compares_eq_holdsAt rfl, hholds, Bool.not_eq_true', ← Bool.not_eq_true, anyElement_iff]
    simp only [not_exists, not_and, Bool.not_eq_true, Related]
  | lt | lte | gt | gte => exact clauseHolds_order_iff rfl
  | regexAnchored | regexContains => exact clauseHolds_pattern_iff rfl

/-- A document satisfies a plan if it has a value other than null wherever one must be, and every comparison of the plan holds
of it. -/
theorem satisfies_iff {plan : Plan} {document : Json} :
    satisfies plan document = true ↔
      (∀ field ∈ plan.existence, ∃ value, document.lookup field = some value ∧ value ≠ .null) ∧
        ∀ clause ∈ plan.filters, clauseHolds document clause = true := by
  have hhas : ∀ field, hasValue document field = true ↔ ∃ value, document.lookup field = some value ∧ value ≠ .null := by
    intro field
    unfold hasValue
    cases document.lookup field with
    | none => simp
    | some value => cases value <;> simp [isNull]
  rw [satisfies, Bool.and_eq_true, List.all_eq_true, List.all_eq_true]
  simp only [hhas]

end SheetQuery.Store
