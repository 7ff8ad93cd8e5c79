import Criteria.Proofs.Binary64.Order
import Criteria.Proofs.Condition.Comparison
import Criteria.Value.Interchange

/-!
Integers of JSON in comparisons. An integer that fits sixty-four signed bits keeps its number as a value, and one beyond
them takes the number of the nearest double. The double nearest to an integer from 2^63 on is not below 2^63, so the
change of kind there turns no two integers around: the lower one never comes to stand above, and they come to stand
together only if both are rounded to one double. Wherever one of the two fits, the conditions that compare numbers
answer as the integers themselves stand.
-/
namespace Criteria

namespace Value

def unitsOf (n : Int) : Int := if n < 2 ^ 63 then n * (2 ^ 1074 : Nat) else (Binary64.ofInt n).units

theorem ofNumber_of_lt {n : Int} (inRange : -2 ^ 63 ≤ n ∧ n < 2 ^ 64) (fits : n < 2 ^ 63) :
    ofNumber (.int n inRange) = .int (Int64.ofInt n) := by
  rw [ofNumber, if_pos fits]

theorem ofNumber_of_le {n : Int} (inRange : -2 ^ 63 ≤ n ∧ n < 2 ^ 64) (large : 2 ^ 63 ≤ n) :
    ofNumber (.int n inRange) = .float (Binary64.ofInt n) := by
  rw [ofNumber, if_neg (by omega)]

theorem exists_numeral?_ofNumber {n : Int} (inRange : -2 ^ 63 ≤ n ∧ n < 2 ^ 64) :
    ∃ number, (ofNumber (.int n inRange)).numeral? = some number ∧
      number.extent? = some (.finite (unitsOf n)) := by
  unfold unitsOf
  by_cases fits : n < 2 ^ 63
  · have same : (Int64.ofInt n).toInt = n := Int64.toInt_ofInt_of_le inRange.1 fits
    rw [ofNumber_of_lt inRange fits, if_pos fits]
    refine ⟨_, rfl, ?_⟩
    rw [Numeral.extent?, same, Extent.ofInt_eq]
  · rw [ofNumber_of_le inRange (by omega), if_neg fits]
    exact ⟨_, rfl, Binary64.extent?_of_isFinite (Binary64.isFinite_ofInt (by omega) inRange.2)⟩

theorem kind_ofNumber {n : Int} (inRange : -2 ^ 63 ≤ n ∧ n < 2 ^ 64) :
    (ofNumber (.int n inRange)).kind = .integer ∨ (ofNumber (.int n inRange)).kind = .float := by
  by_cases fits : n < 2 ^ 63
  · rw [ofNumber_of_lt inRange fits]
    exact .inl rfl
  · rw [ofNumber_of_le inRange (by omega)]
    exact .inr rfl

section Order

variable {m n : Int}

/-- What is beyond the signed range stays beyond it when it is rounded. -/
theorem le_units_ofInt (large : 2 ^ 63 ≤ n) (bounded : n < 2 ^ 64) :
    2 ^ 63 * (2 ^ 1074 : Nat) ≤ (Binary64.ofInt n).units := by
  have limit : (Numeral.wholeLimit false).units = 2 ^ 63 * (2 ^ 1074 : Nat) := by decide +kernel
  have nearest := Binary64.isNearest_ofInt (show 0 < n by omega) bounded
  have below : (2 : Int) ^ 63 * (2 ^ 1074 : Nat) ≤ n * (2 ^ 1074 : Nat) :=
    Int.mul_le_mul_of_nonneg_right large (Int.le_of_lt Binary64.one_pos)
  rw [← limit] at below ⊢
  exact nearest.le_units (by decide) below

theorem unitsOf_lt_of_fits (fits : m < 2 ^ 63) (order : m < n) (bounded : n < 2 ^ 64) : unitsOf m < unitsOf n := by
  unfold unitsOf
  rw [if_pos fits]
  by_cases both : n < 2 ^ 63
  · rw [if_pos both]
    exact Int.mul_lt_mul_of_pos_right order Binary64.one_pos
  · rw [if_neg both]
    have below : m * (2 ^ 1074 : Nat) < 2 ^ 63 * (2 ^ 1074 : Nat) := Int.mul_lt_mul_of_pos_right fits Binary64.one_pos
    exact Int.lt_of_lt_of_le below (le_units_ofInt (by omega) bounded)

/-- A lower integer never comes to stand for a greater number: beyond the signed range rounding keeps the order. -/
theorem unitsOf_le (order : m < n) (bounded : n < 2 ^ 64) : unitsOf m ≤ unitsOf n := by
  by_cases fits : m < 2 ^ 63
  · exact Int.le_of_lt (unitsOf_lt_of_fits fits order bounded)
  · rw [unitsOf, unitsOf, if_neg fits, if_neg (by omega)]
    have lower := Binary64.isNearest_ofInt (show 0 < m by omega) (by omega)
    have higher := Binary64.isNearest_ofInt (show 0 < n by omega) bounded
    exact lower.units_le_units higher (Int.mul_lt_mul_of_pos_right order Binary64.one_pos)

theorem le_of_unitsOf_eq (order : m < n) (bounded : n < 2 ^ 64) (same : unitsOf m = unitsOf n) : 2 ^ 63 ≤ m := by
  by_contra fits
  have less := unitsOf_lt_of_fits (Int.not_le.1 fits) order bounded
  omega

theorem ofInt_eq_of_unitsOf_eq (low : 2 ^ 63 ≤ m) (high : 2 ^ 63 ≤ n) (bounded : m < 2 ^ 64)
    (same : unitsOf m = unitsOf n) : Binary64.ofInt m = Binary64.ofInt n := by
  rw [unitsOf, unitsOf, if_neg (by omega), if_neg (by omega)] at same
  apply Binary64.eq_of_units_eq _ same
  have limit : (0 : Int) < 2 ^ 63 * (2 ^ 1074 : Nat) := Int.mul_pos (by decide) Binary64.one_pos
  exact Int.lt_of_lt_of_le limit (le_units_ofInt low bounded)

theorem compare_unitsOf (fits : m < 2 ^ 63 ∨ n < 2 ^ 63) (first : m < 2 ^ 64) (second : n < 2 ^ 64) :
    Ord.compare (unitsOf m) (unitsOf n) = Ord.compare m n := by
  rcases Int.lt_trichotomy m n with before | same | behind
  · rw [Int.compare_eq_lt.2 before, Int.compare_eq_lt.2 (unitsOf_lt_of_fits (by omega) before second)]
  · rw [same, Int.compare_eq_eq.2 rfl, Int.compare_eq_eq.2 rfl]
  · rw [Int.compare_eq_gt.2 behind, Int.compare_eq_gt.2 (unitsOf_lt_of_fits (by omega) behind first)]

end Order

end Value

namespace Operator

def relatesIntegers : Operator → (found reference : Int) → Bool
  | .eq, found, reference => decide (found = reference)
  | .gt, found, reference => decide (found > reference)
  | .gte, found, reference => decide (found ≥ reference)
  | .lt, found, reference => decide (found < reference)
  | .lte, found, reference => decide (found ≤ reference)
  | _, _, _ => false

theorem admits_compare (operator : Operator) (found reference : Int) :
    operator.admits (Ord.compare found reference) = operator.relatesIntegers found reference := by
  rw [Bool.eq_iff_iff]
  cases operator with
  | eq => rw [admits, Ordering.isEq_iff_eq_eq, Int.compare_eq_eq, relatesIntegers, decide_eq_true_iff]
  | gt => rw [admits, Ordering.isGT_iff_eq_gt, Int.compare_eq_gt, relatesIntegers, decide_eq_true_iff]
  | gte => rw [admits, Int.isGE_compare, relatesIntegers, decide_eq_true_iff]
  | lt => rw [admits, Ordering.isLT_iff_eq_lt, Int.compare_eq_lt, relatesIntegers, decide_eq_true_iff]
  | lte => rw [admits, Int.isLE_compare, relatesIntegers, decide_eq_true_iff]
  | isIn => rfl
  | contains => rfl
  | regex => rfl

end Operator

namespace Condition

open Value

/-- Coming from JSON never turns two integers around. The lower one compares as less or equal, as less if it fits the
signed range, and as equal only if both are beyond it and become one double, nearest to both. So if one of them fits,
every condition that compares numbers decides the relation of the integers. -/
theorem integers_keep_order {m n : Int} (first : -2 ^ 63 ≤ m ∧ m < 2 ^ 64) (second : -2 ^ 63 ≤ n ∧ n < 2 ^ 64) :
    ∃ number bound order, (ofNumber (.int m first)).numeral? = some number ∧
      (ofNumber (.int n second)).numeral? = some bound ∧ number.compare? bound = some order ∧
      (m < n → order = .lt ∨ order = .eq) ∧
      (m < n → m < 2 ^ 63 ∨ n < 2 ^ 63 → order = .lt) ∧
      (m < n → order = .eq → 2 ^ 63 ≤ m ∧ 2 ^ 63 ≤ n ∧
        ∃ x : Binary64, ofNumber (.int m first) = .float x ∧ ofNumber (.int n second) = .float x ∧
          x.IsNearest (m * (2 ^ 1074 : Nat)) ∧ x.IsNearest (n * (2 ^ 1074 : Nat))) ∧
      (m < 2 ^ 63 ∨ n < 2 ^ 63 → ∀ operator ∈ Operator.comparing, ∀ (path : Path) (document : Value),
        path.resolve document = ofNumber (.int m first) →
        ∃ condition, make path.text (ofNumber (.int n second)) operator false = .ok condition ∧
          condition.evaluate document = .ok (operator.relatesIntegers m n)) := by
  obtain ⟨number, left, here⟩ := exists_numeral?_ofNumber first
  obtain ⟨bound, right, there⟩ := exists_numeral?_ofNumber second
  have compared : number.compare? bound = some (Ord.compare (unitsOf m) (unitsOf n)) := by
    rw [Numeral.compare?_eq, here, there]
    rfl
  refine ⟨number, bound, _, left, right, compared, ?_, ?_, ?_, ?_⟩
  · intro order
    have kept := unitsOf_le order second.2
    rw [Int.compare_eq_lt, Int.compare_eq_eq]
    omega
  · intro order fits
    rw [compare_unitsOf fits first.2 second.2]
    exact Int.compare_eq_lt.2 order
  · intro order equal
    have same := Int.compare_eq_eq.1 equal
    have large := le_of_unitsOf_eq order second.2 same
    have large' : 2 ^ 63 ≤ n := by omega
    have one := ofInt_eq_of_unitsOf_eq large large' first.2 same
    have nearest := Binary64.isNearest_ofInt (show 0 < m by omega) first.2
    have nearest' := Binary64.isNearest_ofInt (show 0 < n by omega) second.2
    rw [← one] at nearest'
    exact ⟨large, large', _, ofNumber_of_le first large, one ▸ ofNumber_of_le second large', nearest, nearest'⟩
  · intro fits operator comparing path document resolved
    obtain ⟨condition, made, evaluated⟩ :=
      exists_evaluate_eq_any_admits left right (kind_ofNumber second) comparing resolved
    refine ⟨condition, made, ?_⟩
    rw [evaluated, compared, Option.any_some, compare_unitsOf fits first.2 second.2, Operator.admits_compare]

/-- The greatest integer of the signed range is less than the one behind it, and that one and the next become one
double. -/
theorem integers_keep_order_at_limit :
    (2 ^ 63 - 1 : Int) < 2 ^ 63 ∧ .lt ∈ Operator.comparing ∧
      (∃ number bound, (ofNumber (.int (2 ^ 63 - 1) (by decide))).numeral? = some number ∧
        (ofNumber (.int (2 ^ 63) (by decide))).numeral? = some bound ∧ number.compare? bound = some .lt) ∧
      (∃ condition, make "n" (ofNumber (.int (2 ^ 63) (by decide))) .lt false = .ok condition ∧
        condition.evaluate (.map [("n", ofNumber (.int (2 ^ 63 - 1) (by decide)))]) = .ok true) ∧
      ∃ x : Binary64, ofNumber (.int (2 ^ 63) (by decide)) = .float x ∧
        ofNumber (.int (2 ^ 63 + 1) (by decide)) = .float x ∧
        x.IsNearest (2 ^ 63 * (2 ^ 1074 : Nat)) ∧ x.IsNearest ((2 ^ 63 + 1) * (2 ^ 1074 : Nat)) := by
  have comparing : .lt ∈ Operator.comparing := by decide
  have fits : (2 ^ 63 - 1 : Int) < 2 ^ 63 ∨ (2 : Int) ^ 63 < 2 ^ 63 := .inl (by decide)
  obtain ⟨number, bound, order, left, right, compared, -, less, -, decides⟩ :=
    integers_keep_order (m := 2 ^ 63 - 1) (n := 2 ^ 63) (by decide) (by decide)
  rw [less (by decide) fits] at compared
  have asked := decides fits .lt comparing ⟨"n", by decide⟩ (.map [("n", _)]) rfl
  obtain ⟨number', bound', order', left', right', compared', -, -, together, -⟩ :=
    integers_keep_order (m := 2 ^ 63) (n := 2 ^ 63 + 1) (by decide) (by decide)
  have tied : (Numeral.real (.ofInt (2 ^ 63))).compare? (.real (.ofInt (2 ^ 63 + 1))) = some .eq := by decide +kernel
  obtain rfl := Option.some.inj left'
  obtain rfl := Option.some.inj right'
  have equal : order' = .eq := Option.some.inj (compared'.symm.trans tied)
  obtain ⟨-, -, one⟩ := together (by decide) equal
  exact ⟨by decide, comparing, ⟨number, bound, left, right, compared⟩, asked, one⟩

end Condition

end Criteria
