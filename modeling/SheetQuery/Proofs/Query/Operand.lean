import Mathlib.Data.List.Forall2
import Mathlib.Data.List.TakeWhile
import SheetQuery.Proofs.Decimal.Integer
import SheetQuery.Proofs.Outcome
import SheetQuery.Proofs.Text.Split
import SheetQuery.Query.Compile

/-!
# Typed operands

The operand of a comparison is a text until its field is known. Which value it becomes is said here without the readers:
the value that the text denotes as one of the kind of its field (`FieldKind.Denotes`), or the text itself where the
comparison is with a pattern or with something inside the field (`OperandOf`). The clause of a token is the one with that
value, and a token without such a value has none (`typedClause_eq_ok_iff`).
-/

namespace SheetQuery.Query

open Decimal

/-! ## Values of a kind -/

/-- Which value a text denotes as one of a kind. A list is compared by its elements. -/
inductive FieldKind.Denotes (raw : String) : FieldKind → Json → Prop where
  | integer {i : Int} (fits : FitsInteger i)
      (read : readInteger .i64 raw.toList = .ok i ∨ readInteger .u64 raw.toList = .ok i) :
      Denotes raw .integer (.num (.int i fits))
  | float {x : Finite .double} (read : readBinary .double raw.toList = .ok (.finite x)) :
      Denotes raw .float (.num (.float x))
  | yes (written : raw = "1" ∨ raw = "true") : Denotes raw .truth (.bool true)
  | no (written : raw = "0" ∨ raw = "false") : Denotes raw .truth (.bool false)
  | string : Denotes raw .string (.str raw)
  | object : Denotes raw .object (.str raw)
  | element {kind : FieldKind} {value : Json} (denotes : Denotes raw kind value) : Denotes raw (.array kind) value

/-- An integer fits a value exactly when it has 64 bits, with a sign or without one. -/
theorem fitsInteger_iff {i : Int} : FitsInteger i ↔ IntWidth.i64.holds i = true ∨ IntWidth.u64.holds i = true := by
  rw [IntWidth.holds_iff, IntWidth.holds_iff]
  simp only [FitsInteger, IntWidth.least, IntWidth.greatest]
  omega

/-- An integer of 64 bits that is read fits a value. -/
theorem fits_of_readInteger {text : List Char} {i : Int}
    (h : readInteger .i64 text = .ok i ∨ readInteger .u64 text = .ok i) : FitsInteger i :=
  fitsInteger_iff.2 (h.imp holds_of_readInteger holds_of_readInteger)

/-- The text of an integer that fits denotes it. -/
theorem denotes_toString {i : Int} (fits : FitsInteger i) : FieldKind.integer.Denotes (toString i) (.num (.int i fits)) :=
  .integer _ ((fitsInteger_iff.1 fits).imp readInteger_toString readInteger_toString)

theorem readWord?_eq_some_iff {raw : String} {value : Json} :
    FieldKind.readWord? raw = some value ↔ FieldKind.Denotes raw .integer value := by
  unfold FieldKind.readWord?
  constructor
  · intro h
    split at h
    · rename_i i hi
      rw [Json.ofInt?, dif_pos (fits_of_readInteger (.inl hi))] at h
      obtain rfl := Option.some.inj h
      exact .integer _ (.inl hi)
    · split at h
      · rename_i i hi
        rw [Json.ofInt?, dif_pos (fits_of_readInteger (.inr hi))] at h
        obtain rfl := Option.some.inj h
        exact .integer _ (.inr hi)
      · nomatch h
  · rintro (@⟨i, fits, hread⟩)
    cases hsigned : readInteger .i64 raw.toList with
    | ok j =>
      -- Where both widths can read the text, they read the same integer.
      have hij : i = j := by
        rw [eq_signedValue_of_readInteger hsigned]
        rcases hread with h | h <;> exact eq_signedValue_of_readInteger h
      subst hij
      simp [Json.ofInt?, fits]
    | error e =>
      rcases hread with h | h
      · rw [h] at hsigned
        nomatch hsigned
      · simp [h, Json.ofInt?, fits]

theorem readFinite?_eq_some_iff {raw : String} {value : Json} :
    FieldKind.readFinite? raw = some value ↔ FieldKind.Denotes raw .float value := by
  unfold FieldKind.readFinite?
  constructor
  · intro h
    split at h
    · rename_i x hx
      obtain rfl := Option.some.inj h
      exact .float hx
    · nomatch h
  · intro h
    cases h with
    | float hread => rw [hread]

/-- A text is read as a value of a kind exactly when it denotes that value. -/
theorem readOperand?_eq_some_iff {raw : String} {kind : FieldKind} {value : Json} :
    kind.readOperand? raw = some value ↔ kind.Denotes raw value := by
  induction kind with
  | integer => exact readWord?_eq_some_iff
  | float => exact readFinite?_eq_some_iff
  | truth =>
    unfold FieldKind.readOperand?
    constructor
    · intro h
      split at h
      · rename_i hyes
        obtain rfl := Option.some.inj h
        exact .yes (by simpa using hyes)
      · split at h
        · rename_i hno
          obtain rfl := Option.some.inj h
          exact .no (by simpa using hno)
        · nomatch h
    · intro h
      cases h with
      | yes written => rcases written with rfl | rfl <;> rfl
      | no written => rcases written with rfl | rfl <;> rfl
  | string =>
    constructor
    · intro h
      obtain rfl := Option.some.inj h
      exact .string
    · intro h
      cases h
      rfl
  | object =>
    constructor
    · intro h
      obtain rfl := Option.some.inj h
      exact .object
    · intro h
      cases h
      rfl
  | array element ih =>
    constructor
    · intro h
      exact .element (ih.1 h)
    · intro h
      cases h with
      | element h => exact ih.2 h

/-! ## Declared fields -/

/-- The part of a path before its first point. -/
def firstSegment (path : String) : String :=
  String.ofList (path.toList.takeWhile (· ≠ '.'))

/-- A collection declares a field for the first segment of a path. Of fields with one name the first counts. -/
def Collection.Declares (collection : Collection) (path : String) (field : FieldInfo) : Prop :=
  collection.fields.find? (·.name == firstSegment path) = some field

theorem field?_eq_some_iff {collection : Collection} {path : String} {field : FieldInfo} :
    collection.field? path = some field ↔ collection.Declares path field := by
  have hhead : (Text.pieces '.' path).headD path = firstSegment path := by
    rw [Text.pieces, List.headD_eq_head?_getD, List.head?_map, Text.head?_splitOn]
    rfl
  rw [Collection.field?, hhead, Collection.Declares]

/-- A path leads into its declared field exactly when it has a point. -/
theorem path_ne_name_iff {collection : Collection} {path : String} {field : FieldInfo}
    (h : collection.Declares path field) : path ≠ field.name ↔ '.' ∈ path.toList := by
  have hname : field.name = firstSegment path := by simpa using List.find?_some h
  have hwhole : path = firstSegment path ↔ '.' ∉ path.toList := by
    rw [← String.toList_inj, firstSegment, String.toList_ofList, eq_comm, List.takeWhile_eq_self_iff]
    simp only [ne_eq, decide_not, Bool.not_eq_true', decide_eq_false_iff_not]
    constructor
    · intro h hpoint
      exact h '.' hpoint rfl
    · rintro h c hc rfl
      exact h hc
  rw [hname, ne_eq, hwhole, not_not]

/-! ## Operands -/

/-- Which value the operand of a token becomes when the path of the token begins with a field. -/
inductive OperandOf (field : FieldInfo) (token : Token) : Json → Prop where
  /-- A pattern stays a text. -/
  | pattern (regex : token.operator.isRegex = true) : OperandOf field token (.str token.operand)
  /-- What is compared with something inside the field stays a text. -/
  | inside (dotted : '.' ∈ token.field.toList) : OperandOf field token (.str token.operand)
  /-- What is compared with the field becomes a value of its kind. -/
  | whole {value : Json} (plain : token.operator.isRegex = false) (undotted : '.' ∉ token.field.toList)
      (denotes : field.kind.operandKind.Denotes token.operand value) : OperandOf field token value
  /-- The bound of a range on integers may be a fraction. -/
  | bound {value : Json} (range : token.operator.isRange = true) (undotted : '.' ∉ token.field.toList)
      (integral : field.kind.operandKind = .integer) (fraction : ∀ i, ¬ FieldKind.integer.Denotes token.operand i)
      (denotes : FieldKind.float.Denotes token.operand value) : OperandOf field token value

/-- No comparison by order is one with a pattern. -/
theorem isRegex_of_isRange {operator : Operator} (h : operator.isRange = true) : operator.isRegex = false := by
  cases operator <;> first | rfl | nomatch h

theorem boundOf?_eq_some_iff {kind : FieldKind} {operator : Operator} {raw : String} {value : Json} :
    Collection.boundOf? kind operator raw = some value ↔
      kind.Denotes raw value ∨
        (kind = .integer ∧ operator.isRange = true ∧ (∀ i, ¬ FieldKind.integer.Denotes raw i) ∧
          FieldKind.float.Denotes raw value) := by
  unfold Collection.boundOf?
  cases hread : kind.readOperand? raw with
  | some operand =>
    have hdenotes := readOperand?_eq_some_iff.1 hread
    constructor
    · intro h
      obtain rfl := Option.some.inj h
      exact .inl hdenotes
    · rintro (h | ⟨rfl, -, hnone, -⟩)
      · exact hread.symm.trans (readOperand?_eq_some_iff.2 h)
      · exact absurd hdenotes (hnone operand)
  | none =>
    have hnone : ∀ value, ¬ kind.Denotes raw value := by
      intro value h
      rw [readOperand?_eq_some_iff.2 h] at hread
      nomatch hread
    constructor
    · intro h
      right
      dsimp only at h
      split at h
      · split at h
        · rename_i hrange
          exact ⟨rfl, hrange, hnone, readFinite?_eq_some_iff.1 h⟩
        · nomatch h
      · nomatch h
    · rintro (h | ⟨rfl, hrange, -, h⟩)
      · exact absurd h (hnone value)
      · simp only [hrange, if_true]
        exact readFinite?_eq_some_iff.2 h

/-- A token whose path begins with a declared field keeps its operand as a text, or reads it as a value of the kind of the
field. -/
theorem readOperand_of_declares {collection : Collection} {path : String} {field : FieldInfo}
    (h : collection.Declares path field) (operator : Operator) (raw : String) :
    collection.readOperand path operator raw =
      if operator.isRegex = true ∨ '.' ∈ path.toList then .ok (.str raw)
      else
        match Collection.boundOf? field.kind.operandKind operator raw with
        | some operand => .ok operand
        | none => .error (.invalidOperand path raw field.kind.operandKind.name) := by
  have htext : (operator.isRegex || path != field.name) = true ↔ operator.isRegex = true ∨ '.' ∈ path.toList := by
    rw [Bool.or_eq_true, bne_iff_ne, path_ne_name_iff h]
  rw [Collection.readOperand, Collection.require, field?_eq_some_iff.2 h]
  by_cases hkept : operator.isRegex = true ∨ '.' ∈ path.toList
  · rw [if_pos hkept]
    exact if_pos (htext.2 hkept)
  · rw [if_neg hkept]
    exact if_neg (mt htext.1 hkept)

/-- An operand is read as a value exactly when it is to become that value. -/
theorem readOperand_eq_ok_iff {collection : Collection} {token : Token} {field : FieldInfo}
    (h : collection.Declares token.field field) {value : Json} :
    collection.readOperand token.field token.operator token.operand = .ok value ↔ OperandOf field token value := by
  rw [readOperand_of_declares h]
  by_cases htext : token.operator.isRegex = true ∨ '.' ∈ token.field.toList
  · rw [if_pos htext]
    constructor
    · intro hv
      obtain rfl := Except.ok.inj hv
      rcases htext with hregex | hdotted
      · exact .pattern hregex
      · exact .inside hdotted
    · intro hv
      have hnot : ¬ (token.operator.isRegex = false ∧ '.' ∉ token.field.toList) := by simpa [or_iff_not_imp_left] using htext
      cases hv with
      | pattern | inside => rfl
      | whole plain undotted => exact absurd ⟨plain, undotted⟩ hnot
      | bound range undotted => exact absurd ⟨isRegex_of_isRange range, undotted⟩ hnot
  · rw [if_neg htext]
    obtain ⟨hplain, hundotted⟩ := not_or.1 htext
    have hbound : ∀ {bound? : Option Json} {e : QueryError},
        (match bound? with | some operand => Except.ok operand | none => .error e) = .ok value ↔ bound? = some value := by
      intro bound? e
      cases bound? <;> simp
    rw [hbound, boundOf?_eq_some_iff]
    constructor
    · rintro (hdenotes | ⟨hintegral, hrange, hfraction, hdenotes⟩)
      · exact .whole (by simpa using hplain) hundotted hdenotes
      · exact .bound hrange hundotted hintegral hfraction hdenotes
    · intro hv
      cases hv with
      | pattern regex => exact absurd regex hplain
      | inside dotted => exact absurd dotted hundotted
      | whole plain undotted denotes => exact .inl denotes
      | bound range undotted integral fraction denotes => exact .inr ⟨integral, range, fraction, denotes⟩

/-- An operand that cannot be read is told with the kind that its field has. -/
theorem error_of_readOperand {collection : Collection} {path raw : String} {operator : Operator} {field : FieldInfo}
    (h : collection.Declares path field) {e : QueryError} (he : collection.readOperand path operator raw = .error e) :
    e = .invalidOperand path raw field.kind.operandKind.name := by
  rw [readOperand_of_declares h] at he
  split at he
  · nomatch he
  · split at he
    · nomatch he
    · exact (Except.error.inj he).symm

/-- A value without parts that is not null. -/
def IsScalar : Json → Prop
  | .bool _ | .num _ | .str _ => True
  | .null | .arr _ | .obj _ => False

theorem FieldKind.Denotes.isScalar {raw : String} {kind : FieldKind} {value : Json} (h : kind.Denotes raw value) :
    IsScalar value := by
  induction h with
  | element _ ih => exact ih
  | integer | float | yes | no | string | object => trivial

/-- Every operand is a scalar. -/
theorem OperandOf.isScalar {field : FieldInfo} {token : Token} {value : Json} (h : OperandOf field token value) :
    IsScalar value := by
  cases h with
  | pattern | inside => trivial
  | whole _ _ denotes => exact denotes.isScalar
  | bound _ _ _ _ denotes => exact denotes.isScalar

/-! ## Clauses -/

/-- Which clause a token becomes: the same comparison of the same field, with the value that its operand becomes. -/
structure ClauseOf (collection : Collection) (token : Token) (clause : Clause) : Prop where
  field : clause.field = token.field
  operator : clause.operator = token.operator
  operand : ∃ field, collection.Declares token.field field ∧ OperandOf field token clause.operand

/-- A path without a declared field is told. -/
theorem require_of_undeclared {collection : Collection} {path : String} (h : ∀ field, ¬ collection.Declares path field) :
    collection.require path = .error (.unknownField collection.name path) := by
  cases hfield : collection.field? path with
  | none => rw [Collection.require, hfield]
  | some field => exact absurd (field?_eq_some_iff.1 hfield) (h field)

/-- A token has a clause exactly when it becomes that clause. -/
theorem typedClause_eq_ok_iff {collection : Collection} {token : Token} {clause : Clause} :
    typedClause collection token = .ok clause ↔ ClauseOf collection token clause := by
  unfold typedClause
  constructor
  · intro h
    split at h
    · rename_i operand hread
      obtain rfl := Except.ok.inj h
      by_cases hdeclared : ∃ field, collection.Declares token.field field
      · obtain ⟨field, hfield⟩ := hdeclared
        exact ⟨rfl, rfl, field, hfield, (readOperand_eq_ok_iff hfield).1 hread⟩
      · rw [Collection.readOperand, require_of_undeclared (not_exists.1 hdeclared)] at hread
        nomatch hread
    · nomatch h
  · rintro ⟨hfield, hoperator, field, hdeclared, hoperand⟩
    rw [(readOperand_eq_ok_iff hdeclared).2 hoperand]
    obtain ⟨_, _, _⟩ := clause
    simp only at hfield hoperator
    rw [hfield, hoperator]

/-- Tokens have clauses exactly when each becomes one, in their order. -/
theorem typedClauses_eq_ok_iff {collection : Collection} {tokens : List Token} {clauses : List Clause} :
    typedClauses collection tokens = .ok clauses ↔ List.Forall₂ (ClauseOf collection) tokens clauses := by
  induction tokens generalizing clauses with
  | nil =>
    rw [typedClauses, List.forall₂_nil_left_iff]
    constructor
    · intro h
      exact (Except.ok.inj h).symm
    · rintro rfl
      rfl
  | cons token tokens ih =>
    rw [typedClauses, List.forall₂_cons_left_iff]
    simp only [bind_eq_ok_iff, typedClause_eq_ok_iff, ih]
    constructor
    · rintro ⟨clause, hclause, rest, hrest, h⟩
      exact ⟨clause, rest, hclause, hrest, (Except.ok.inj h).symm⟩
    · rintro ⟨clause, rest, hclause, hrest, rfl⟩
      exact ⟨clause, hclause, rest, hrest, rfl⟩

end SheetQuery.Query
