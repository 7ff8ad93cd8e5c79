import Criteria.Binary64.Arithmetic
import Criteria.Proofs.Binary64.Finite

/-!
The whole part and the fraction of a double. In units of the smallest positive double the whole part is the
number less what it leaves when divided by one, the conversion to an integer is that quotient, and a
difference has the sign that it has before it is rounded.
-/
namespace Criteria.Binary64

theorem one_pos : (0 : Int) < (2 ^ 1074 : Nat) := by
  apply Int.ofNat_lt.2
  apply Nat.two_pow_pos

def units (x : Binary64) : Int := if x.negative then -(x.magnitude : Int) else x.magnitude

theorem extent?_of_isFinite {x : Binary64} (finite : x.isFinite = true) :
    x.extent? = some (.finite x.units) := by
  rw [extent?, if_pos finite, units]

theorem biased_lt (x : Binary64) : x.biased < 2048 := Nat.mod_lt _ (by decide)

theorem fraction_lt (x : Binary64) : x.fraction < 2 ^ 52 := Nat.mod_lt _ (by decide)

theorem significand_lt (x : Binary64) : x.significand < 2 ^ 53 := by
  have fraction := x.fraction_lt
  unfold significand
  split <;> omega

theorem rest_eq (x : Binary64) : x.rest = x.biased * 2 ^ 52 + x.fraction := by
  simp only [rest, biased, fraction]
  omega

theorem rest_lt (x : Binary64) : x.rest < 2 ^ 63 := Nat.mod_lt _ (by decide)

section Encoding

variable (negative : Bool) {rest : Nat} (small : rest < 2 ^ 63)

include small

theorem negative_ofSignAndRest : (ofSignAndRest negative rest).negative = negative := by
  cases negative
  · simp only [Binary64.negative, ofSignAndRest, UInt64.toNat_ofNat', Bool.false_eq_true, ↓reduceIte,
      decide_eq_false_iff_not]
    omega
  · simp only [Binary64.negative, ofSignAndRest, UInt64.toNat_ofNat', ↓reduceIte, decide_eq_true_eq]
    omega

omit small in
theorem fraction_ofSignAndRest : (ofSignAndRest negative rest).fraction = rest % 2 ^ 52 := by
  cases negative
  · simp only [fraction, ofSignAndRest, UInt64.toNat_ofNat', Bool.false_eq_true, ↓reduceIte]
    omega
  · simp only [fraction, ofSignAndRest, UInt64.toNat_ofNat', ↓reduceIte]
    omega

theorem magnitude_ofSignAndRest_pos (positive : 0 < rest) : 0 < (ofSignAndRest negative rest).magnitude := by
  have significand : 0 < (ofSignAndRest negative rest).significand := by
    unfold Binary64.significand
    rw [biased_ofSignAndRest negative small, fraction_ofSignAndRest negative]
    split <;> omega
  exact Nat.mul_pos significand (Nat.two_pow_pos _)

end Encoding

theorem magnitude_ofSignAndRest_zero (negative : Bool) : (ofSignAndRest negative 0).magnitude = 0 := by
  cases negative <;> decide

/-- Clearing low bits leaves the bits above them alone. -/
theorem clear_low_bits (high low : Nat) {places : Nat} (inside : places ≤ 52) :
    (high * 2 ^ 52 + low) / 2 ^ places * 2 ^ places = high * 2 ^ 52 + low / 2 ^ places * 2 ^ places := by
  have split : (2 : Nat) ^ 52 = 2 ^ (52 - places) * 2 ^ places := by
    rw [← Nat.pow_add, Nat.sub_add_cancel inside]
  rw [split, ← Nat.mul_assoc, Nat.add_comm, Nat.add_mul_div_right _ _ (Nat.two_pow_pos places), Nat.add_mul]
  exact Nat.add_comm _ _

theorem magnitude_lt (x : Binary64) : x.magnitude < 2 ^ (53 + x.shift) := by
  rw [Nat.pow_add]
  exact Nat.mul_lt_mul_of_pos_right x.significand_lt (Nat.two_pow_pos x.shift)

theorem magnitude_lt_one {x : Binary64} (below : x.biased < 1023) : x.magnitude < 2 ^ 1074 := by
  apply Nat.lt_of_lt_of_le x.magnitude_lt
  apply Nat.pow_le_pow_right
  · decide
  · unfold shift
    omega

theorem one_dvd_magnitude {x : Binary64} (above : 1075 ≤ x.biased) : 2 ^ 1074 ∣ x.magnitude := by
  apply Nat.dvd_mul_left_of_dvd
  apply Nat.pow_dvd_pow
  unfold shift
  omega

theorem magnitude_clear {x : Binary64} {places : Nat} (point : x.biased + places = 1075) (inside : places ≤ 52) :
    (ofSignAndRest x.negative (x.rest / 2 ^ places * 2 ^ places)).biased = x.biased ∧
      (ofSignAndRest x.negative (x.rest / 2 ^ places * 2 ^ places)).magnitude =
        x.magnitude / 2 ^ 1074 * 2 ^ 1074 := by
  have low := x.fraction_lt
  have cleared : x.fraction / 2 ^ places * 2 ^ places ≤ x.fraction := Nat.div_mul_le_self _ _
  have bits := clear_low_bits x.biased x.fraction inside
  have leading := clear_low_bits 1 x.fraction inside
  rw [Nat.one_mul] at leading
  have small : x.biased * 2 ^ 52 + x.fraction / 2 ^ places * 2 ^ places < 2 ^ 63 := by
    have exponent := x.biased_lt
    omega
  have exponent : (ofSignAndRest x.negative (x.rest / 2 ^ places * 2 ^ places)).biased = x.biased := by
    rw [rest_eq, bits, biased_ofSignAndRest _ small]
    omega
  have fraction : (ofSignAndRest x.negative (x.rest / 2 ^ places * 2 ^ places)).fraction =
      x.fraction / 2 ^ places * 2 ^ places := by
    rw [rest_eq, bits, fraction_ofSignAndRest]
    omega
  have normal : x.biased ≠ 0 := by omega
  have power : (2 : Nat) ^ 1074 = 2 ^ places * 2 ^ x.shift := by
    rw [← Nat.pow_add]
    congr 1
    unfold shift
    omega
  refine ⟨exponent, ?_⟩
  rw [magnitude, significand, shift, exponent, if_neg normal, fraction, ← leading]
  rw [magnitude, significand, if_neg normal, power, Nat.mul_div_mul_right _ _ (Nat.two_pow_pos _), shift,
    Nat.mul_assoc]

/-- The whole part keeps the sign, and of the units those that make up whole ones. -/
theorem trunc_spec {x : Binary64} (finite : x.isFinite = true) :
    x.trunc.isFinite = true ∧ x.trunc.negative = x.negative ∧
      x.trunc.magnitude = x.magnitude / 2 ^ 1074 * 2 ^ 1074 := by
  unfold trunc
  by_cases below : x.biased < 1023
  · rw [if_pos below, magnitude_ofSignAndRest_zero, Nat.div_eq_of_lt (magnitude_lt_one below), Nat.zero_mul]
    exact ⟨isFinite_ofSignAndRest _ (by decide), negative_ofSignAndRest _ (by decide), rfl⟩
  · rw [if_neg below]
    by_cases above : 1075 ≤ x.biased
    · rw [if_pos above, Nat.div_mul_cancel (one_dvd_magnitude above)]
      exact ⟨finite, rfl, rfl⟩
    · rw [if_neg above]
      have places : x.biased + (1075 - x.biased) = 1075 := by omega
      obtain ⟨exponent, magnitude⟩ := magnitude_clear places (by omega)
      have small : x.rest / 2 ^ (1075 - x.biased) * 2 ^ (1075 - x.biased) < 2 ^ 63 :=
        Nat.lt_of_le_of_lt (Nat.div_mul_le_self _ _) x.rest_lt
      refine ⟨?_, negative_ofSignAndRest _ small, magnitude⟩
      rw [isFinite, exponent]
      exact finite

theorem isFinite_trunc {x : Binary64} (finite : x.isFinite = true) : x.trunc.isFinite = true :=
  (trunc_spec finite).1

theorem tdiv_mul_of_sign (negative : Bool) (size one : Nat) :
    (if negative then -((size / one * one : Nat) : Int) else (size / one * one : Nat)) =
      (if negative then -(size : Int) else size).tdiv one * one := by
  rw [Int.natCast_mul, Int.ofNat_tdiv]
  cases negative
  · rfl
  · simp only [↓reduceIte, Int.neg_tdiv, Int.neg_mul]

theorem units_trunc {x : Binary64} (finite : x.isFinite = true) :
    x.trunc.units = x.units.tdiv (2 ^ 1074 : Nat) * (2 ^ 1074 : Nat) := by
  obtain ⟨-, sign, magnitude⟩ := trunc_spec finite
  rw [units, units, sign, magnitude, tdiv_mul_of_sign]

/-- In the range of the integers the conversion of a whole part is exact. -/
theorem toInt_toInt64_trunc {x : Binary64} (finite : x.isFinite = true)
    (low : -2 ^ 63 ≤ x.units.tdiv (2 ^ 1074 : Nat)) (high : x.units.tdiv (2 ^ 1074 : Nat) < 2 ^ 63) :
    x.trunc.toInt64.toInt = x.units.tdiv (2 ^ 1074 : Nat) := by
  have one : ((2 ^ 1074 : Nat) : Int) ≠ 0 := Int.ne_of_gt one_pos
  have power : ((2 ^ 1074 : Nat) : Int) = 2 ^ 1074 := by rw [Int.natCast_pow]; rfl
  rw [toInt64, extent?_of_isFinite (isFinite_trunc finite)]
  dsimp only
  rw [units_trunc finite, ← power, Int.mul_tdiv_cancel _ one]
  apply Int64.toInt_ofIntClamp
  · exact low
  · exact Int.le_of_lt_add_one high

theorem extent?_zero : zero.extent? = some (.finite 0) := by decide

theorem roundHalfEven_mul (num : Nat) {den : Nat} (positive : 0 < den) : roundHalfEven (num * den) den = num := by
  simp [roundHalfEven, Nat.mul_div_cancel _ positive, positive]

theorem nearestRest_pos {units : Nat} (positive : 0 < units) : 0 < nearestRest units (1 <<< 1074) := by
  have one : 0 < 2 ^ 1074 := by apply Nat.two_pow_pos
  have scale (places : Nat) : 1 <<< places = 2 ^ places := Nat.one_shiftLeft places
  rw [nearestRest_eq, scale 1074, Nat.mul_div_cancel _ one]
  apply Nat.lt_min.2
  refine ⟨?_, by decide⟩
  by_cases exact : excessPlaces units = 0
  · rw [exact, Nat.pow_zero, Nat.mul_one, roundHalfEven_mul _ one]
    omega
  · omega

/-- The sign bit decides on which side of zero a number with other bits lies. -/
theorem zero_compare?_ofSignAndRest (negative : Bool) {rest : Nat} (positive : 0 < rest)
    (bounded : rest ≤ infinityRest) :
    zero.compare? (ofSignAndRest negative rest) = some (if negative then .gt else .lt) := by
  have small : rest < 2 ^ 63 := Nat.lt_of_le_of_lt bounded (by decide)
  rw [compare?, extent?_zero]
  rcases Nat.lt_or_eq_of_le bounded with finite | infinite
  · have size := magnitude_ofSignAndRest_pos negative small positive
    rw [extent?_of_isFinite (isFinite_ofSignAndRest negative finite), units,
      negative_ofSignAndRest negative small]
    cases negative
    · exact congrArg some (Int.compare_eq_lt.2 (by simpa using size))
    · exact congrArg some (Int.compare_eq_gt.2 (by simpa using size))
  · subst infinite
    cases negative <;> decide

theorem zero_compare?_sub {x y : Binary64} (left : x.isFinite = true) (right : y.isFinite = true) :
    zero.compare? (x.sub y) = some (Ord.compare 0 (x.units - y.units)) := by
  rw [sub, extent?_of_isFinite left, extent?_of_isFinite right]
  dsimp only
  by_cases same : x.units = y.units
  · rw [if_pos same, same, Int.sub_self]
    cases x.negative <;> cases y.negative <;> decide
  · rw [if_neg same, nearest, zero_compare?_ofSignAndRest _ (nearestRest_pos (by omega)) (Nat.min_le_right _ _)]
    by_cases before : x.units < y.units
    · have order : Ord.compare 0 (x.units - y.units) = .gt := Int.compare_eq_gt.2 (by omega)
      simp [before, order]
    · have order : Ord.compare 0 (x.units - y.units) = .lt := Int.compare_eq_lt.2 (by omega)
      simp [before, order]

end Criteria.Binary64
