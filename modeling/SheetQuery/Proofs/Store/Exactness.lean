import SheetQuery.Proofs.Json.Order
import SheetQuery.Proofs.Store.Comparison

/-!
# Integers compare exactly

An operand for integers is written as digits after an optional sign, and it becomes the integer that it denotes or none at
all: nothing wraps and nothing is rounded (`denotes_integer_iff`). Two integers then compare as integers, although the one
may need a sign and the other a bit more than a word with a sign has. Where no word holds both, floating point still tells
them apart, since the one is negative and the other is not (`compareWords_eq`). So a clause that is made from the text of an
integer says about the integers of a document what its comparison says about numbers (`clauses_exact`).
-/

namespace SheetQuery

open Decimal

/-! ## Words of 64 bits -/

/-- How two integers compare as words of 64 bits: with a sign if both fit so, else without one if both fit so, and else
after rounding to floating point. -/
def compareWords (a b : Int) : Ordering :=
  if IntWidth.i64.holds a && IntWidth.i64.holds b then Ord.compare (Int64.ofInt a) (Int64.ofInt b)
  else if IntWidth.u64.holds a && IntWidth.u64.holds b then Ord.compare (UInt64.ofNat a.toNat) (UInt64.ofNat b.toNat)
  else Ord.compare (roundedPlace a) (roundedPlace b)

theorem compare_int64 {a b : Int} (ha : IntWidth.i64.holds a = true) (hb : IntWidth.i64.holds b = true) :
    Ord.compare (Int64.ofInt a) (Int64.ofInt b) = Ord.compare a b := by
  have hsigned : IntWidth.i64.signed = true := rfl
  have hlt : Int64.ofInt a < Int64.ofInt b ↔ a < b := by
    rw [Int64.lt_iff_toInt_lt, toInt_ofInt hsigned ha, toInt_ofInt hsigned hb]
  have heq : Int64.ofInt a = Int64.ofInt b ↔ a = b := by
    rw [← Int64.toInt_inj, toInt_ofInt hsigned ha, toInt_ofInt hsigned hb]
  change compareOfLessAndEq _ _ = compareOfLessAndEq _ _
  simp only [compareOfLessAndEq, hlt, heq]

theorem compare_uint64 {a b : Int} (ha : IntWidth.u64.holds a = true) (hb : IntWidth.u64.holds b = true) :
    Ord.compare (UInt64.ofNat a.toNat) (UInt64.ofNat b.toNat) = Ord.compare a b := by
  have hunsigned : IntWidth.u64.signed = false := rfl
  have hlt : UInt64.ofNat a.toNat < UInt64.ofNat b.toNat ↔ a < b := by
    rw [UInt64.lt_iff_toNat_lt, ← Int.ofNat_lt, toNat_ofNat hunsigned ha, toNat_ofNat hunsigned hb]
  have heq : UInt64.ofNat a.toNat = UInt64.ofNat b.toNat ↔ a = b := by
    rw [← UInt64.toNat_inj, ← Int.ofNat_inj, toNat_ofNat hunsigned ha, toNat_ofNat hunsigned hb]
  change compareOfLessAndEq _ _ = compareOfLessAndEq _ _
  simp only [compareOfLessAndEq, hlt, heq]

/-- Rounding keeps the sign of an integer. -/
theorem roundedPlace_neg_iff {i : Int} : roundedPlace i < 0 ↔ i < 0 := by
  have hone : 0 < FloatFormat.double.nearestRank 1 1 := by decide +kernel
  simp only [roundedPlace]
  split
  · have hle : FloatFormat.double.nearestRank 1 1 ≤ FloatFormat.double.nearestRank i.natAbs 1 :=
      FloatFormat.nearestRank_mono FloatFormat.double (by decide) (by omega)
    omega
  · omega

/-- A negative integer and one that is not compare alike after rounding. -/
theorem compare_roundedPlace {a b : Int} (h : a < 0 ↔ 0 ≤ b) :
    Ord.compare (roundedPlace a) (roundedPlace b) = Ord.compare a b := by
  have ha : roundedPlace a < 0 ↔ a < 0 := roundedPlace_neg_iff
  have hb : roundedPlace b < 0 ↔ b < 0 := roundedPlace_neg_iff
  by_cases hneg : a < 0
  · have hlt : a < b := by omega
    have hplaces : roundedPlace a < roundedPlace b := by omega
    rw [Int.compare_eq_lt.2 hlt, Int.compare_eq_lt.2 hplaces]
  · have hgt : b < a := by omega
    have hplaces : roundedPlace b < roundedPlace a := by omega
    rw [Int.compare_eq_gt.2 hgt, Int.compare_eq_gt.2 hplaces]

/-- Integers of 64 bits, with a sign or without one, compare as words in the way they compare as integers. -/
theorem compareWords_eq {a b : Int} (ha : FitsInteger a) (hb : FitsInteger b) : compareWords a b = Ord.compare a b := by
  unfold compareWords
  split
  · rename_i hsigned
    rw [Bool.and_eq_true] at hsigned
    exact compare_int64 hsigned.1 hsigned.2
  · rename_i hsigned
    split
    · rename_i hunsigned
      rw [Bool.and_eq_true] at hunsigned
      exact compare_uint64 hunsigned.1 hunsigned.2
    · rename_i hunsigned
      -- No word holds both, so one of them is negative and the other too great for a sign.
      rw [Bool.and_eq_true, IntWidth.holds_iff, IntWidth.holds_iff] at hsigned hunsigned
      simp only [IntWidth.least, IntWidth.greatest] at hsigned hunsigned
      obtain ⟨haleast, hagreatest⟩ := ha
      obtain ⟨hbleast, hbgreatest⟩ := hb
      exact compare_roundedPlace (by omega)

/-- Two integers on both sides of the greatest word with a sign are told apart, and so are two beyond what floating point can
tell apart. -/
example : compareWords 9223372036854775807 9223372036854775808 = .lt ∧ compareWords (-1) 9223372036854775808 = .lt ∧
    compareWords 9007199254740993 9007199254740992 = .gt := by
  decide +kernel

/-! ## Operands for integers -/

/-- Whether a text is an operand for integers, and for which one: it denotes an integer that fits 64 bits, with a sign if
there is a minus in front. -/
structure IntegerOperand (text : List Char) (n : Int) : Prop where
  denotes : IntegerText text n
  fits : FitsInteger n
  signed : text.head? = some '-' → IntWidth.i64.holds n = true

/-- What has a minus in front is not greater than zero, so it fits with a sign if it fits at all. -/
theorem IntegerOperand.of_fits {text : List Char} {n : Int} (h : IntegerText text n) (fits : FitsInteger n) :
    IntegerOperand text n := by
  refine ⟨h, fits, fun hminus => ?_⟩
  rw [FitsInteger] at fits
  cases h with
  | unsigned hdigits =>
    obtain ⟨c, rest, rfl, hc⟩ := hdigits.exists_cons
    rw [List.head?_cons, Option.some_inj] at hminus
    rw [hminus] at hc
    exact absurd hc (by decide)
  | plus => exact absurd hminus (by simp)
  | minus =>
    rw [IntWidth.holds_iff]
    simp only [IntWidth.least, IntWidth.greatest]
    omega

/-- The text of an integer that fits is an operand for it. -/
theorem integerOperand_toString {n : Int} (fits : FitsInteger n) : IntegerOperand (toString n).toList n :=
  .of_fits (integerText_toString n) fits

namespace Query

/-- The operands for integers are the texts that denote one, and each becomes the one that it denotes. -/
theorem denotes_integer_iff {raw : String} {value : Json} :
    FieldKind.integer.Denotes raw value ↔
      ∃ n, ∃ h : IntegerOperand raw.toList n, value = .num (.int n h.fits) := by
  constructor
  · rintro (@⟨n, fits, hread⟩)
    have htext : IntegerText raw.toList n := by
      rcases hread with h | h <;> exact integerText_of_readInteger h
    exact ⟨n, .of_fits htext fits, rfl⟩
  · rintro ⟨n, h, rfl⟩
    refine .integer h.fits ?_
    by_cases hsigned : IntWidth.i64.holds n = true
    · exact .inl (readInteger_of_integerText h.denotes hsigned fun _ => rfl)
    · have hunsigned : IntWidth.u64.holds n = true := (fitsInteger_iff.1 h.fits).resolve_left hsigned
      exact .inr (readInteger_of_integerText h.denotes hunsigned fun hminus => absurd (h.signed hminus) hsigned)

/-- The clause that compares a field with an integer. -/
def integerClause (path : String) (operator : Operator) (n : Int) (fits : FitsInteger n) : Clause :=
  ⟨path, operator, .num (.int n fits)⟩

section Clauses

variable {collection : Collection} {path : String} {field : FieldInfo} {operator : Operator}

/-- The clauses that compare integers: with the integer that the operand denotes, and for a range also with the finite number
that is read of an operand which denotes none. -/
inductive IntegerClause (path : String) (operator : Operator) (raw : String) : Clause → Prop where
  | exact {n : Int} (h : IntegerOperand raw.toList n) : IntegerClause path operator raw (integerClause path operator n h.fits)
  | bound {x : Finite .double} (range : operator.isRange = true) (fraction : ∀ n, ¬ IntegerOperand raw.toList n)
      (read : readBinary .double raw.toList = .ok (.finite x)) :
      IntegerClause path operator raw ⟨path, operator, .num (.float x)⟩

/-- A comparison with whole integers of a field that is declared so has exactly these clauses. -/
theorem typedClause_integer_iff (declared : collection.Declares path field) (integral : field.kind.operandKind = .integer)
    (whole : '.' ∉ path.toList) (plain : operator.isRegex = false) {raw : String} {clause : Clause} :
    typedClause collection ⟨path, operator, raw⟩ = .ok clause ↔ IntegerClause path operator raw clause := by
  have hnone : (∀ i, ¬ FieldKind.integer.Denotes raw i) ↔ ∀ n, ¬ IntegerOperand raw.toList n := by
    simp only [denotes_integer_iff, not_exists]
    exact ⟨fun h n hn => h _ n hn rfl, fun h _ n hn _ => h n hn⟩
  rw [typedClause_eq_ok_iff]
  constructor
  · rintro ⟨hfield, hoperator, field', hdeclared, hoperand⟩
    obtain rfl : field = field' := Option.some.inj (declared.symm.trans hdeclared)
    obtain ⟨_, _, value⟩ := clause
    dsimp only at hfield hoperator hoperand
    subst hfield hoperator
    cases hoperand with
    | pattern regex => exact absurd regex (by simp [plain])
    | inside dotted => exact absurd dotted whole
    | whole _ _ denotes =>
      rw [integral, denotes_integer_iff] at denotes
      obtain ⟨n, h, rfl⟩ := denotes
      exact .exact h
    | bound range _ _ fraction denotes =>
      cases denotes with
      | float read => exact .bound range (hnone.1 fraction) read
  · intro h
    cases h with
    | exact h =>
      refine ⟨rfl, rfl, field, declared, .whole plain whole ?_⟩
      rw [integral, denotes_integer_iff]
      exact ⟨_, h, rfl⟩
    | bound range fraction read =>
      exact ⟨rfl, rfl, field, declared, .bound range whole integral (hnone.2 fraction) (.float read)⟩

end Clauses

/-- The relation between integers that a comparison is for. -/
def Operator.relates : Operator → Int → Int → Prop
  | .eq, m, n => m = n
  | .ne, m, n => m ≠ n
  | .lt, m, n => m < n
  | .lte, m, n => m ≤ n
  | .gt, m, n => m > n
  | .gte, m, n => m ≥ n
  | .regexAnchored, _, _ | .regexContains, _, _ => False

end Query

/-! ## Documents with integers -/

/-- An integer that fits a value. -/
abbrev FittingInteger := {m : Int // FitsInteger m}

/-- An integer that fits, as a value. -/
def Json.ofFitting (m : FittingInteger) : Json :=
  .num (.int m.1 m.2)

namespace Store

open Query

/-- The orders that a comparison accepts are those of the integers that it relates. -/
theorem acceptedOrder_compare {operator : Operator} (hop : operator ∈ orderOperators) (m n : Int) :
    acceptedOrder operator (Ord.compare m n) = true ↔ operator.relates m n := by
  cases operator with
  | eq => exact Ordering.isEq_iff_eq_eq.trans Int.compare_eq_eq
  | lt => exact Ordering.isLT_iff_eq_lt.trans Int.compare_eq_lt
  | lte => exact Int.isLE_compare
  | gt => exact Ordering.isGT_iff_eq_gt.trans Int.compare_eq_gt
  | gte => exact Int.isGE_compare
  | ne | regexAnchored | regexContains => exact absurd hop (by decide)

/-- An integer has no parts. -/
theorem plain_int (n : Int) (fits : FitsInteger n) : (Json.num (.int n fits)).Plain :=
  .inr trivial

section Matching

variable [PatternEngine] {operator : Operator} {document : Json} {path : String} {n : Int} {fits : FitsInteger n}

/-- What comparisons by orders are related to, all comparisons without a pattern are: the remaining one is the opposite of
equality. -/
theorem compares_iff_of_orders {operand : Json} {related : Operator → Prop} (plain : operator.isRegex = false)
    (h : ∀ operator ∈ orderOperators, (compares document path operand operator = true ↔ related operator)) :
    compares document path operand operator = true ↔ if operator = .ne then ¬ related .eq else related operator := by
  cases operator with
  | ne => rw [compares_ne, Bool.not_eq_true', ← Bool.not_eq_true, h .eq (by decide), if_pos rfl]
  | eq | lt | lte | gt | gte => exact h _ (by decide)
  | regexAnchored | regexContains => exact absurd plain (by decide)

omit [PatternEngine] in
/-- A comparison by orders relates integers as they are. -/
theorem ordered_ofFitting (hop : operator ∈ orderOperators) (m : FittingInteger) :
    ordered (acceptedOrder operator) (.num (.int n fits)) (.ofFitting m) = true ↔ operator.relates m n :=
  acceptedOrder_compare hop m n

/-- A clause on integers holds of an integer exactly when its comparison relates the two. -/
theorem clauseHolds_single (plain : operator.isRegex = false) {m : FittingInteger}
    (h : document.lookup path = some (.ofFitting m)) :
    clauseHolds document (integerClause path operator n fits) = true ↔ operator.relates m n := by
  have horder : ∀ operator ∈ orderOperators,
      (compares document path (.num (.int n fits)) operator = true ↔ operator.relates m n) := by
    intro operator hop
    rw [compares_eq_anyElement (plain_int n fits) hop, h]
    exact ordered_ofFitting hop m
  refine (compares_iff_of_orders plain horder).trans ?_
  split
  · rename_i hne
    rw [hne]
    exact Iff.rfl
  · exact Iff.rfl

/-- A clause on integers holds of an array of integers exactly when its comparison relates one of them, or when none of them
is the integer that they all should differ from. -/
theorem clauseHolds_items (plain : operator.isRegex = false) {ms : List FittingInteger}
    (h : document.lookup path = some (.arr (ms.map .ofFitting))) :
    clauseHolds document (integerClause path operator n fits) = true ↔
      if operator = .ne then ∀ m ∈ ms, m.1 ≠ n else ∃ m ∈ ms, operator.relates m n := by
  have horder : ∀ operator ∈ orderOperators,
      (compares document path (.num (.int n fits)) operator = true ↔ ∃ m ∈ ms, operator.relates m n) := by
    intro operator hop
    rw [compares_eq_anyElement (plain_int n fits) hop, h]
    simp only [anyElement, List.any_map, List.any_eq_true, Function.comp_apply, ordered_ofFitting hop]
  refine (compares_iff_of_orders plain horder).trans ?_
  simp only [Operator.relates, not_exists, not_and, ne_eq]

end Matching

/-- A comparison with a field of integers is exact: its operands are the texts of integers that fit, and for a range what else
is a finite number; the text of every integer that fits is one of them; and the clause that is made of one says of the integers
of a document what the comparison says of numbers. -/
structure ComparesExactly [PatternEngine] (collection : Collection) (path : String) (operator : Operator) : Prop where
  operands : ∀ raw clause,
    typedClause collection ⟨path, operator, raw⟩ = .ok clause ↔ IntegerClause path operator raw clause
  written : ∀ n, FitsInteger n → IntegerOperand (toString n).toList n
  matching : ∀ raw n, IntegerOperand raw.toList n →
    ∃ clause, typedClause collection ⟨path, operator, raw⟩ = .ok clause ∧
      (∀ (document : Json) (m : FittingInteger), document.lookup path = some (.ofFitting m) →
        (clauseHolds document clause = true ↔ operator.relates m n)) ∧
      ∀ (document : Json) (ms : List FittingInteger), document.lookup path = some (.arr (ms.map .ofFitting)) →
        (clauseHolds document clause = true ↔
          if operator = .ne then ∀ m ∈ ms, m.1 ≠ n else ∃ m ∈ ms, operator.relates m n)
  words : ∀ m n : FittingInteger, Json.compareScalars (.ofFitting m) (.ofFitting n) = some (compareWords m n)

/-- Every comparison with integers that are declared as such is exact. -/
theorem clauses_exact [PatternEngine] {collection : Collection} {path : String} {field : FieldInfo} {operator : Operator}
    (declared : collection.Declares path field) (integral : field.kind.operandKind = .integer)
    (whole : '.' ∉ path.toList) (plain : operator.isRegex = false) : ComparesExactly collection path operator where
  operands _ _ := typedClause_integer_iff declared integral whole plain
  written _ fits := integerOperand_toString fits
  matching _ n h :=
    ⟨integerClause path operator n h.fits, (typedClause_integer_iff declared integral whole plain).2 (.exact h),
      fun _ _ => clauseHolds_single plain, fun _ _ => clauseHolds_items plain⟩
  words m n := congrArg some (compareWords_eq m.2 n.2).symm

/-- Comparisons with the numbers of fire modes, which are listed for each fire group, are exact. -/
theorem clauses_exact_fireModes :
    Catalog.fireGroup.Declares "fire_mode_ids" ⟨"fire_mode_ids", .array .integer⟩ ∧ '.' ∉ "fire_mode_ids".toList ∧
      ComparesExactly Catalog.fireGroup "fire_mode_ids" .gte := by
  have hdeclares : Catalog.fireGroup.Declares "fire_mode_ids" ⟨"fire_mode_ids", .array .integer⟩ := by rfl
  have hwhole : '.' ∉ "fire_mode_ids".toList := by decide
  exact ⟨hdeclares, hwhole, clauses_exact hdeclares rfl hwhole rfl⟩

end Store

end SheetQuery
