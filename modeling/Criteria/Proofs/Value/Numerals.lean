import Criteria.Proofs.Binary64.Whole
import Criteria.Value.Equality
import Mathlib.Tactic.ByContra

/-!
Numerals compare as the points of the extended line that they denote. Between the two limits an integer is
compared with the whole part of a double, and the fraction decides a tie: that is the order of the two
numbers, because a fraction is smaller than one.
-/
namespace Criteria

namespace Extent

theorem compare_eq_iff (left right : Extent) : left.compare right = .eq ↔ left = right := by
  cases left <;> cases right <;> simp [Extent.compare]

theorem swap_compare (left right : Extent) : (left.compare right).swap = right.compare left := by
  cases left <;> cases right <;> simp [Extent.compare, Int.compare_swap]

theorem ofInt_eq (n : Int) : ofInt n = .finite (n * (2 ^ 1074 : Nat)) := by
  rw [ofInt, Int.natCast_pow]
  rfl

theorem compare_ofInt (left right : Int) : (ofInt left).compare (ofInt right) = Ord.compare left right := by
  have one := Binary64.one_pos
  rw [ofInt_eq, ofInt_eq, Extent.compare]
  generalize ((2 ^ 1074 : Nat) : Int) = unit at one
  rcases Int.lt_trichotomy left right with before | same | behind
  · rw [Int.compare_eq_lt.2 before, Int.compare_eq_lt.2 (Int.mul_lt_mul_of_pos_right before one)]
  · rw [same, Int.compare_eq_eq.2 rfl, Int.compare_eq_eq.2 rfl]
  · rw [Int.compare_eq_gt.2 behind, Int.compare_eq_gt.2 (Int.mul_lt_mul_of_pos_right behind one)]

theorem ofInt_inj {left right : Int} (same : ofInt left = ofInt right) : left = right := by
  apply Int.compare_eq_eq.1
  rw [← compare_ofInt, same]
  exact (compare_eq_iff _ _).2 rfl

end Extent

/-- Comparing with the whole part first and with the fraction on a tie is comparing with the number. -/
theorem compare_then_compare (n whole fraction one : Int) (above : -one < fraction) (below : fraction < one) :
    (Ord.compare n whole).then (Ord.compare 0 fraction) = Ord.compare (n * one) (whole * one + fraction) := by
  have positive : 0 < one := by omega
  -- A whole step outweighs any fraction, so the fraction decides only where the whole parts agree.
  rcases Int.lt_trichotomy n whole with before | same | behind
  · have step : (n + 1) * one ≤ whole * one := Int.mul_le_mul_of_nonneg_right before (Int.le_of_lt positive)
    have order : n * one < whole * one + fraction := by
      rw [Int.add_mul, Int.one_mul] at step
      omega
    rw [Int.compare_eq_lt.2 before, Int.compare_eq_lt.2 order]
    rfl
  · subst same
    rw [Int.compare_eq_eq.2 rfl, Ordering.then]
    rcases Int.lt_trichotomy 0 fraction with positive | zero | negative
    · rw [Int.compare_eq_lt.2 positive, Int.compare_eq_lt.2 (by omega)]
    · rw [Int.compare_eq_eq.2 zero, Int.compare_eq_eq.2 (by omega)]
    · rw [Int.compare_eq_gt.2 negative, Int.compare_eq_gt.2 (by omega)]
  · have step : (whole + 1) * one ≤ n * one := Int.mul_le_mul_of_nonneg_right behind (Int.le_of_lt positive)
    have order : whole * one + fraction < n * one := by
      rw [Int.add_mul, Int.one_mul] at step
      omega
    rw [Int.compare_eq_gt.2 behind, Int.compare_eq_gt.2 order]
    rfl

theorem tdiv_inRange {units one : Int} (positive : 0 < one) (low : -2 ^ 63 * one ≤ units)
    (high : units < 2 ^ 63 * one) : -2 ^ 63 ≤ units.tdiv one ∧ units.tdiv one < 2 ^ 63 := by
  have split := Int.tdiv_mul_add_tmod units one
  have above := Int.lt_tmod_of_pos units positive
  have below := Int.tmod_lt_of_pos units positive
  constructor
  · by_contra beyond
    have step : (units.tdiv one + 1) * one ≤ -2 ^ 63 * one :=
      Int.mul_le_mul_of_nonneg_right (by omega) (Int.le_of_lt positive)
    rw [Int.add_mul, Int.one_mul] at step
    omega
  · by_contra beyond
    have step : 2 ^ 63 * one ≤ units.tdiv one * one :=
      Int.mul_le_mul_of_nonneg_right (by omega) (Int.le_of_lt positive)
    -- Then the number is positive, and so is what it leaves.
    have nonnegative := Int.tmod_nonneg one (show 0 ≤ units by omega)
    omega

/-- Checking the limits first and splitting the number between them is comparing with the number. -/
theorem compare_within_limits {n one : Int} (units : Int) (positive : 0 < one) (low : -2 ^ 63 ≤ n)
    (high : n < 2 ^ 63) :
    (if (Ord.compare units (2 ^ 63 * one)).isGE then .lt
      else if (Ord.compare units (-2 ^ 63 * one)).isLT then .gt
      else (Ord.compare n (units.tdiv one)).then (Ord.compare 0 (units - units.tdiv one * one))) =
      Ord.compare (n * one) units := by
  have lowest : -2 ^ 63 * one ≤ n * one := Int.mul_le_mul_of_nonneg_right low (Int.le_of_lt positive)
  have highest : n * one < 2 ^ 63 * one := Int.mul_lt_mul_of_pos_right high positive
  split
  · rename_i beyond
    have order := Int.isGE_compare.1 beyond
    exact (Int.compare_eq_lt.2 (by omega)).symm
  · split
    · rename_i below
      have order := Int.compare_eq_lt.1 (Ordering.isLT_iff_eq_lt.1 below)
      exact (Int.compare_eq_gt.2 (by omega)).symm
    · have split := Int.tdiv_mul_add_tmod units one
      have fraction : units - units.tdiv one * one = units.tmod one := by omega
      rw [fraction, compare_then_compare n _ _ one (Int.lt_tmod_of_pos units positive)
        (Int.tmod_lt_of_pos units positive), split]

namespace Numeral

def extent? : Numeral → Option Extent
  | .whole n => some (.ofInt n.toInt)
  | .real x => x.extent?

theorem extent?_wholeLimit (negative : Bool) :
    (wholeLimit negative).extent? = some (.ofInt (if negative then -2 ^ 63 else 2 ^ 63)) := by
  cases negative <;> decide +kernel

variable {n : Int64} {x : Binary64}

theorem compare?_wholeLimit (finite : x.isFinite = true) (negative : Bool) :
    x.compare? (wholeLimit negative) =
      some (Ord.compare x.units ((if negative then -2 ^ 63 else 2 ^ 63) * (2 ^ 1074 : Nat))) := by
  rw [Binary64.compare?, Binary64.extent?_of_isFinite finite, extent?_wholeLimit, Extent.ofInt_eq]
  rfl

theorem between_limits {units one : Int} (below : ¬(Ord.compare units (2 ^ 63 * one)).isGE = true)
    (above : ¬(Ord.compare units (-2 ^ 63 * one)).isLT = true) :
    -2 ^ 63 * one ≤ units ∧ units < 2 ^ 63 * one := by
  rw [Int.isGE_compare] at below
  rw [Ordering.isLT_iff_eq_lt, Int.compare_eq_lt] at above
  omega

/-- An integer is compared with a finite number as the number of units that it stands for. -/
theorem compareWhole?_of_isFinite (finite : x.isFinite = true) :
    compareWhole? n x = some ((Extent.ofInt n.toInt).compare (.finite x.units)) := by
  have number : x.isNaN = false := ((Binary64.isFinite_iff x).1 finite).1
  have upper := compare?_wholeLimit finite false
  have lower := compare?_wholeLimit finite true
  have sign := Binary64.zero_compare?_sub finite (Binary64.isFinite_trunc finite)
  have one := Binary64.one_pos
  have order := compare_within_limits x.units one n.le_toInt n.toInt_lt
  rw [Extent.ofInt_eq, Extent.compare, ← order]
  simp only [compareWhole?, number, upper, lower, sign, Binary64.units_trunc finite, Bool.false_eq_true,
    if_false, if_true, Option.any_some, Option.map_some]
  by_cases below : (Ord.compare x.units (2 ^ 63 * (2 ^ 1074 : Nat))).isGE = true
  · rw [if_pos below, if_pos below]
  · by_cases above : (Ord.compare x.units (-2 ^ 63 * (2 ^ 1074 : Nat))).isLT = true
    · rw [if_neg below, if_neg below, if_pos above, if_pos above]
    · obtain ⟨low, high⟩ := between_limits below above
      obtain ⟨least, most⟩ := tdiv_inRange one low high
      rw [if_neg below, if_neg below, if_neg above, if_neg above, Binary64.toInt_toInt64_trunc finite least most]

theorem compareWhole?_eq (n : Int64) (x : Binary64) :
    compareWhole? n x = x.extent?.map (Extent.ofInt n.toInt).compare := by
  by_cases finite : x.isFinite = true
  · rw [compareWhole?_of_isFinite finite, Binary64.extent?_of_isFinite finite, Option.map_some]
  · have upper := extent?_wholeLimit false
    have lower := extent?_wholeLimit true
    unfold compareWhole? Binary64.compare?
    rw [upper, lower, Binary64.extent?, if_neg finite]
    by_cases number : x.isNaN = true
    · rw [if_pos number, if_pos number, Option.map_none]
    · rw [if_neg number, if_neg number]
      cases x.negative <;> rfl

/-- Numerals are compared as the points that they denote. -/
theorem compare?_eq (left right : Numeral) :
    left.compare? right = left.extent?.bind fun a => right.extent?.map a.compare := by
  cases left with
  | whole n =>
    cases right with
    | whole m => exact congrArg some (Extent.compare_ofInt n.toInt m.toInt).symm
    | real y => exact compareWhole?_eq n y
  | real x =>
    cases right with
    | whole m =>
      rw [compare?, compareWhole?_eq]
      simp only [extent?]
      cases x.extent? with
      | none => rfl
      | some point => exact congrArg some (Extent.swap_compare _ _)
    | real y =>
      rw [compare?, Binary64.compare?]
      simp only [extent?]
      cases x.extent? <;> cases y.extent? <;> rfl

end Numeral

end Criteria
