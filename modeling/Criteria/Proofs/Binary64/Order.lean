import Criteria.Proofs.Binary64.Nearest

/-!
The order of doubles and rounding. Without their signs doubles are ordered as their bits are, so apart from the zeros
a finite number has one double. And the double nearest to a lower point never lies above the one nearest to a higher
point, nor on the other side of a third double: were it so, one of the two would not be nearest.
-/
namespace Criteria.Binary64

theorem le_significand {x : Binary64} (normal : x.biased ≠ 0) : 2 ^ 52 ≤ x.significand := by
  rw [significand, if_neg normal]
  omega

theorem magnitude_lt_of_rest_lt {x y : Binary64} (below : x.rest < y.rest) : x.magnitude < y.magnitude := by
  have short := x.fraction_lt
  have short' := y.fraction_lt
  rw [rest_eq, rest_eq] at below
  rcases Nat.lt_or_eq_of_le (show x.biased ≤ y.biased by omega) with lower | same
  · have normal : 2 ^ 52 ≤ y.significand := le_significand (by omega)
    by_cases subnormal : x.biased = 0
    · have small : x.magnitude < 2 ^ 52 := by
        rw [magnitude, significand, shift, subnormal]
        simpa using short
      exact Nat.lt_of_lt_of_le small (Nat.le_trans normal (Nat.le_mul_of_pos_right _ (Nat.two_pow_pos _)))
    · have places : 53 + x.shift ≤ 52 + y.shift := by
        unfold shift
        omega
      calc
        x.magnitude < 2 ^ (53 + x.shift) := x.magnitude_lt
        _ ≤ 2 ^ (52 + y.shift) := Nat.pow_le_pow_right (by decide) places
        _ = 2 ^ 52 * 2 ^ y.shift := Nat.pow_add ..
        _ ≤ y.magnitude := Nat.mul_le_mul_right _ normal
  · have further : x.significand < y.significand := by
      unfold significand
      split <;> split <;> omega
    rw [magnitude, magnitude, shift, shift, ← same]
    exact Nat.mul_lt_mul_of_pos_right further (Nat.two_pow_pos _)

theorem rest_eq_of_magnitude_eq {x y : Binary64} (same : x.magnitude = y.magnitude) : x.rest = y.rest := by
  rcases Nat.lt_trichotomy x.rest y.rest with below | equal | above
  · exact absurd same (Nat.ne_of_lt (magnitude_lt_of_rest_lt below))
  · exact equal
  · exact absurd same.symm (Nat.ne_of_lt (magnitude_lt_of_rest_lt above))

theorem eq_of_rest_eq {x y : Binary64} (sign : x.negative = y.negative) (same : x.rest = y.rest) : x = y := by
  obtain ⟨bits⟩ := x
  obtain ⟨bits'⟩ := y
  have width := bits.toNat_lt
  have width' := bits'.toNat_lt
  simp only [negative, rest, decide_eq_decide] at sign same
  rw [mk.injEq, ← UInt64.toNat_inj]
  omega

theorem negative_of_units_pos {x : Binary64} (positive : 0 < x.units) :
    x.negative = false ∧ x.units = x.magnitude := by
  unfold units at positive ⊢
  cases sign : x.negative with
  | false => exact ⟨rfl, rfl⟩
  | true =>
    rw [sign, if_pos rfl] at positive
    omega

theorem eq_of_units_eq {x y : Binary64} (positive : 0 < x.units) (same : x.units = y.units) : x = y := by
  obtain ⟨sign, size⟩ := negative_of_units_pos positive
  obtain ⟨sign', size'⟩ := negative_of_units_pos (same ▸ positive)
  apply eq_of_rest_eq (sign.trans sign'.symm)
  apply rest_eq_of_magnitude_eq
  omega

namespace IsNearest

variable {x y : Binary64} {low high : Int}

theorem le_units (nearest : x.IsNearest high) (finite : y.isFinite = true) (below : y.units ≤ high) :
    y.units ≤ x.units := by
  have least := nearest.least y finite
  rw [distance, distance] at least
  omega

/-- Rounding keeps the order. If the doubles were the other way round, the lower point would lie above their middle
and the higher one below it. -/
theorem units_le_units (first : x.IsNearest low) (second : y.IsNearest high) (order : low < high) :
    x.units ≤ y.units := by
  have here := first.least y second.finite
  have there := second.least x first.finite
  rw [distance, distance] at here there
  omega

end IsNearest

end Criteria.Binary64
