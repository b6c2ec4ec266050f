import SheetQuery.Json.Order
import SheetQuery.Proofs.Decimal.Rounding

/-!
# The order of sorting

Of any two values, absent ones included, the comparison for sorting says which comes first, and it says the same when it is
asked the other way round. Whether it is an order is a matter of the numbers. Integers compare exactly, but beside a
floating-point number an integer counts as the floating-point number nearest to it, so that two integers can both equal the
floating-point number that they are rounded to and still differ. That is the only way in which the comparison fails to be
transitive: rounding keeps the order of the integers, and all other types are ordered by themselves.
-/

namespace SheetQuery

open Decimal

/-! ## Numbers -/

/-- Rounding keeps the order of the integers. -/
theorem roundedPlace_mono {a b : Int} (h : a ≤ b) : roundedPlace a ≤ roundedPlace b := by
  have hrank : ∀ {m n : Nat}, m ≤ n → FloatFormat.double.nearestRank m 1 ≤ FloatFormat.double.nearestRank n 1 :=
    FloatFormat.nearestRank_mono FloatFormat.double (by decide)
  simp only [roundedPlace]
  by_cases ha : a < 0
  · by_cases hb : b < 0
    · have hle := hrank (show b.natAbs ≤ a.natAbs by omega)
      rw [if_pos ha, if_pos hb]
      omega
    · rw [if_pos ha, if_neg hb]
      omega
  · have hle := hrank (show a.natAbs ≤ b.natAbs by omega)
    rw [if_neg ha, if_neg (by omega)]
    omega

namespace Number

/-- Whether two integers, the greater before and the lesser behind a floating-point number, are both rounded to it. -/
def Blurred : Number → Number → Number → Prop
  | .int a _, .float x, .int b _ => roundedPlace a = x.place ∧ roundedPlace b = x.place ∧ b < a
  | _, _, _ => False

theorem compare_self (a : Number) : a.compare a = .eq := by
  cases a with
  | int i _ => exact Int.compare_eq_eq.2 rfl
  | float x => exact Int.compare_eq_eq.2 rfl

theorem compare_swap (a b : Number) : (a.compare b).swap = b.compare a := by
  cases a with
  | int i _ =>
    cases b with
    | int j _ => exact Int.compare_swap i j
    | float y => exact Int.compare_swap _ _
  | float x => cases b <;> exact Int.compare_swap _ _

/-- Three numbers in order are in order from the first to the last, unless rounding blurs them. -/
theorem compare_trans_iff {a b c : Number} (hab : (a.compare b).isLE) (hbc : (b.compare c).isLE) :
    (a.compare c).isLE ↔ ¬Blurred a b c := by
  cases a with
  | int i hi =>
    cases b with
    | int j hj =>
      have hij : i ≤ j := Int.isLE_compare.1 hab
      cases c with
      | int k hk =>
        have hjk : j ≤ k := Int.isLE_compare.1 hbc
        exact ⟨fun _ => not_false, fun _ => Int.isLE_compare.2 (Int.le_trans hij hjk)⟩
      | float z =>
        have hjz : roundedPlace j ≤ z.place := Int.isLE_compare.1 hbc
        exact ⟨fun _ => not_false, fun _ => Int.isLE_compare.2 (Int.le_trans (roundedPlace_mono hij) hjz)⟩
    | float y =>
      have hiy : roundedPlace i ≤ y.place := Int.isLE_compare.1 hab
      cases c with
      | int k hk =>
        have hyk : y.place ≤ roundedPlace k := Int.isLE_compare.1 hbc
        constructor
        · rintro hik ⟨-, -, hki⟩
          have hik : i ≤ k := Int.isLE_compare.1 hik
          omega
        · intro hblur
          refine Int.isLE_compare.2 (Int.not_lt.1 fun hki => hblur ?_)
          have hmono := roundedPlace_mono (Int.le_of_lt hki)
          exact ⟨by omega, by omega, hki⟩
      | float z =>
        have hyz : y.place ≤ z.place := Int.isLE_compare.1 hbc
        exact ⟨fun _ => not_false, fun _ => Int.isLE_compare.2 (Int.le_trans hiy hyz)⟩
  | float x =>
    cases b with
    | int j hj =>
      have hxj : x.place ≤ roundedPlace j := Int.isLE_compare.1 hab
      cases c with
      | int k hk =>
        have hjk : j ≤ k := Int.isLE_compare.1 hbc
        exact ⟨fun _ => not_false, fun _ => Int.isLE_compare.2 (Int.le_trans hxj (roundedPlace_mono hjk))⟩
      | float z =>
        have hjz : roundedPlace j ≤ z.place := Int.isLE_compare.1 hbc
        exact ⟨fun _ => not_false, fun _ => Int.isLE_compare.2 (Int.le_trans hxj hjz)⟩
    | float y =>
      have hxy : x.place ≤ y.place := Int.isLE_compare.1 hab
      have hyc : y.place ≤ c.place := by
        cases c <;> exact Int.isLE_compare.1 hbc
      refine ⟨fun _ => not_false, fun _ => ?_⟩
      cases c <;> exact Int.isLE_compare.2 (Int.le_trans hxy hyc)

end Number

namespace Json

/-! ## Values of one type -/

/-- Whether two integers, the greater before and the lesser behind a floating-point number, are both rounded to it. -/
def Blurred : Option Json → Option Json → Option Json → Prop
  | some (.num a), some (.num b), some (.num c) => Number.Blurred a b c
  | _, _, _ => False

/-- How two values of one type compare; what has no order is equal. -/
def compareAlike (a b : Json) : Ordering :=
  (compareScalars a b).getD .eq

theorem compareAlike_self (a : Json) : compareAlike a a = .eq := by
  cases a with
  | num a => exact Number.compare_self a
  | str a => exact compareText_self a
  | bool a => cases a <;> rfl
  | _ => rfl

theorem compareAlike_swap (a b : Json) : (compareAlike a b).swap = compareAlike b a := by
  cases a with
  | num a =>
    cases b with
    | num b => exact Number.compare_swap a b
    | _ => rfl
  | str a =>
    cases b with
    | str b => exact show (compareText a b).swap = compareText b a from Std.OrientedCmp.eq_swap.symm
    | _ => rfl
  | bool a =>
    cases b with
    | bool b => exact Nat.compare_swap a.toNat b.toNat
    | _ => rfl
  | _ => cases b <;> rfl

/-- Three values of one type in order are in order from the first to the last, unless rounding blurs them. -/
theorem compareAlike_trans_iff {a b c : Json} (hrank : a.typeRank = b.typeRank) (hrank' : b.typeRank = c.typeRank)
    (hab : (compareAlike a b).isLE) (hbc : (compareAlike b c).isLE) :
    (compareAlike a c).isLE ↔ ¬Blurred (some a) (some b) (some c) := by
  cases a with
  | null =>
    cases b with
    | null =>
      cases c with
      | null =>
        exact ⟨fun _ => not_false, fun _ => rfl⟩
      | _ => nomatch hrank'
    | _ => nomatch hrank
  | bool a =>
    cases b with
    | bool b =>
      cases c with
      | bool c =>
        have hle : a.toNat ≤ b.toNat := Nat.isLE_compare.1 hab
        have hle' : b.toNat ≤ c.toNat := Nat.isLE_compare.1 hbc
        exact ⟨fun _ => not_false, fun _ => Nat.isLE_compare.2 (Nat.le_trans hle hle')⟩
      | _ => nomatch hrank'
    | _ => nomatch hrank
  | num a =>
    cases b with
    | num b =>
      cases c with
      | num c =>
        exact Number.compare_trans_iff hab hbc
      | _ => nomatch hrank'
    | _ => nomatch hrank
  | str a =>
    cases b with
    | str b =>
      cases c with
      | str c =>
        have hle : (compareText a b).isLE := hab
        have hle' : (compareText b c).isLE := hbc
        have htrans : (compareText a c).isLE := Std.TransCmp.isLE_trans hle hle'
        exact ⟨fun _ => not_false, fun _ => htrans⟩
      | _ => nomatch hrank'
    | _ => nomatch hrank
  | arr a =>
    cases b with
    | arr b =>
      cases c with
      | arr c =>
        exact ⟨fun _ => not_false, fun _ => rfl⟩
      | _ => nomatch hrank'
    | _ => nomatch hrank
  | obj a =>
    cases b with
    | obj b =>
      cases c with
      | obj c =>
        exact ⟨fun _ => not_false, fun _ => rfl⟩
      | _ => nomatch hrank'
    | _ => nomatch hrank

/-! ## The whole order -/

/-- Two values that are there compare by their types, and within a type as values of it. -/
theorem compareForSort_some (a b : Json) :
    compareForSort (some a) (some b) = (Ord.compare a.typeRank b.typeRank).then (compareAlike a b) :=
  rfl

theorem compareForSort_self (a : Option Json) : compareForSort a a = .eq := by
  cases a with
  | none => rfl
  | some a => rw [compareForSort_some, compareAlike_self, Nat.compare_eq_eq.2 rfl]; rfl

theorem compareForSort_swap (a b : Option Json) : (compareForSort a b).swap = compareForSort b a := by
  cases a with
  | none => cases b <;> rfl
  | some a =>
    cases b with
    | none => rfl
    | some b => rw [compareForSort_some, compareForSort_some, Ordering.swap_then, Nat.compare_swap, compareAlike_swap]

/-- Blurred values are numbers. -/
theorem Blurred.typeRank_eq {a b c : Json} (h : Blurred (some a) (some b) (some c)) : a.typeRank = c.typeRank := by
  cases a with
  | num a =>
    cases b with
    | num b =>
      cases c with
      | num c => rfl
      | _ => exact h.elim
    | _ => exact h.elim
  | _ => exact h.elim

/-- Three values in order are in order from the first to the last, unless rounding blurs them. -/
theorem compareForSort_trans_iff {a b c : Option Json} (hab : (compareForSort a b).isLE)
    (hbc : (compareForSort b c).isLE) : (compareForSort a c).isLE ↔ ¬Blurred a b c := by
  cases a with
  | none =>
    refine ⟨fun _ => not_false, fun _ => ?_⟩
    cases c <;> rfl
  | some a =>
    cases b with
    | none => nomatch hab
    | some b =>
      cases c with
      | none => nomatch hbc
      | some c =>
        rw [compareForSort_some, Ordering.isLE_then_iff_or, Nat.compare_eq_lt, Nat.compare_eq_eq] at hab hbc ⊢
        constructor
        · rintro hac hblur
          have hranks := hblur.typeRank_eq
          rcases hab with hab | ⟨hrank, hab⟩
          · rcases hbc with hbc | ⟨hrank', -⟩ <;> omega
          · rcases hbc with hbc | ⟨hrank', hbc⟩
            · omega
            · rcases hac with hac | ⟨-, hac⟩
              · omega
              · exact (compareAlike_trans_iff hrank hrank' hab hbc).1 hac hblur
        · intro hblur
          rcases hab with hab | ⟨hrank, hab⟩
          · rcases hbc with hbc | ⟨hrank', -⟩
            · exact .inl (Nat.lt_trans hab hbc)
            · exact .inl (hrank' ▸ hab)
          · rcases hbc with hbc | ⟨hrank', hbc⟩
            · exact .inl (hrank ▸ hbc)
            · exact .inr ⟨hrank.trans hrank', (compareAlike_trans_iff hrank hrank' hab hbc).2 hblur⟩

/-- The comparison for sorting is the same from both sides, and it is transitive but for integers that are rounded to one
floating-point number: if of three values in order, or equal, the second is a floating-point number to which two different
integers beside it are rounded, then the integers are compared exactly and need not be in that order. -/
theorem compareForSort_order (a b c : Option Json) :
    compareForSort a a = .eq ∧ compareForSort b a = (compareForSort a b).swap ∧
      ((compareForSort a b).isLE → (compareForSort b c).isLE → ((compareForSort a c).isLE ↔ ¬Blurred a b c)) ∧
      (compareForSort a b = .eq → compareForSort b c = .eq →
        (compareForSort a c = .eq ↔ ¬Blurred a b c ∧ ¬Blurred c b a)) := by
  refine ⟨compareForSort_self a, (compareForSort_swap a b).symm, compareForSort_trans_iff, fun hab hbc => ?_⟩
  have hba : compareForSort b a = .eq := by
    rw [← compareForSort_swap, hab]
    rfl
  have hcb : compareForSort c b = .eq := by
    rw [← compareForSort_swap, hbc]
    rfl
  have hforth := compareForSort_trans_iff (Ordering.isLE_of_eq_eq hab) (Ordering.isLE_of_eq_eq hbc)
  have hback := compareForSort_trans_iff (Ordering.isLE_of_eq_eq hcb) (Ordering.isLE_of_eq_eq hba)
  rw [← hforth, ← hback, Ordering.eq_eq_iff_isLE_and_isGE, ← compareForSort_swap a c, Ordering.isLE_swap]

/-- Above two to the fifty-third power an integer equals the floating-point number below it, which equals the integer below,
and the two integers differ. -/
theorem compareForSort_blurred :
    ¬∀ a b c, compareForSort a b = .eq → compareForSort b c = .eq → compareForSort a c = .eq := by
  intro h
  have htrans := h (some (.num (.int 9007199254740993 (by decide))))
    (some (.num (.float ⟨false, 4845873199050653696, by decide⟩)))
    (some (.num (.int 9007199254740992 (by decide)))) (by decide +kernel) (by decide +kernel)
  exact absurd htrans (by decide)

end Json

end SheetQuery
