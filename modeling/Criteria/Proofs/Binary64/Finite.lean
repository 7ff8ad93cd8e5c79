import Criteria.Binary64.Rounding
import Mathlib.Algebra.Group.Int.Defs
import Mathlib.Algebra.Group.Nat.Defs
import Mathlib.Tactic.SplitIfs

/-!
Finite numbers. What is not finite is a NaN or one of the two infinities, and rounding stays finite: a
quotient below 2^1023 rounds to a finite double, since its significand has at most fifty-three bits and its
binade is one of the finite ones.
-/
namespace Criteria.Binary64

theorem eq_ofSignAndRest_iff (x : Binary64) (negative : Bool) {rest : Nat} (small : rest < 2 ^ 63) :
    x = ofSignAndRest negative rest ↔ x.bits.toNat = if negative then 2 ^ 63 + rest else rest := by
  obtain ⟨bits⟩ := x
  simp only [ofSignAndRest, mk.injEq, ← UInt64.toNat_inj, UInt64.toNat_ofNat']
  cases negative
  · simp only [Bool.false_eq_true, ↓reduceIte]
    omega
  · simp only [↓reduceIte]
    omega

theorem isFinite_iff (x : Binary64) :
    x.isFinite = true ↔ x.isNaN = false ∧ x ≠ posInfinity ∧ x ≠ negInfinity := by
  have below := x.bits.toNat_lt
  rw [posInfinity, negInfinity, Ne, Ne, eq_ofSignAndRest_iff x false (by decide),
    eq_ofSignAndRest_iff x true (by decide)]
  simp only [isFinite, isNaN, biased, fraction, infinityRest, bne_iff_ne, Bool.and_eq_false_iff,
    beq_eq_false_iff_ne, bne_eq_false_iff_eq, Bool.false_eq_true, ↓reduceIte]
  omega

theorem biased_ofSignAndRest (negative : Bool) {rest : Nat} (small : rest < 2 ^ 63) :
    (ofSignAndRest negative rest).biased = rest / 2 ^ 52 := by
  cases negative
  · simp only [biased, ofSignAndRest, UInt64.toNat_ofNat', Bool.false_eq_true, ↓reduceIte]
    omega
  · simp only [biased, ofSignAndRest, UInt64.toNat_ofNat', ↓reduceIte]
    omega

theorem isFinite_ofSignAndRest (negative : Bool) {rest : Nat} (small : rest < infinityRest) :
    (ofSignAndRest negative rest).isFinite = true := by
  have bound : rest < 2047 * 2 ^ 52 := small
  have exponent : (ofSignAndRest negative rest).biased ≠ 2047 := by
    rw [biased_ofSignAndRest negative (by omega)]
    omega
  simpa [isFinite] using exponent

theorem roundHalfEven_le (num den : Nat) : roundHalfEven num den ≤ num / den + 1 := by
  unfold roundHalfEven
  dsimp only
  split_ifs <;> omega

/-- Without the excess places at most fifty-three bits are left. -/
theorem div_excessPlaces_lt (units : Nat) : units / 2 ^ excessPlaces units < 2 ^ 53 := by
  have places : units.log2 + 1 ≤ 53 + excessPlaces units := by
    unfold excessPlaces
    omega
  rw [Nat.div_lt_iff_lt_mul (Nat.two_pow_pos _), ← Nat.pow_add]
  exact Nat.lt_of_lt_of_le Nat.lt_log2_self (Nat.pow_le_pow_right (by decide) places)

theorem excessPlaces_le {units places : Nat} (bounded : units < 2 ^ (places + 53)) :
    excessPlaces units ≤ places := by
  unfold excessPlaces
  by_cases zero : units = 0
  · simp [zero]
  · have log := (Nat.log2_lt zero).2 bounded
    omega

theorem scaled_div_lt {num den power : Nat} (positive : 0 < den) (bounded : num < den * 2 ^ power)
    (places : Nat) : num * 2 ^ places / den < 2 ^ (power + places) := by
  rw [Nat.div_lt_iff_lt_mul positive]
  calc
    num * 2 ^ places < den * 2 ^ power * 2 ^ places :=
      Nat.mul_lt_mul_of_pos_right bounded (Nat.two_pow_pos places)
    _ = den * 2 ^ (power + places) := by rw [Nat.mul_assoc, Nat.pow_add]
    _ = 2 ^ (power + places) * den := Nat.mul_comm _ _

theorem nearestRest_eq (num den : Nat) :
    nearestRest num den = min (excessPlaces (num * 2 ^ 1074 / den) * 2 ^ 52 +
      roundHalfEven (num * 2 ^ 1074) (den * 2 ^ excessPlaces (num * 2 ^ 1074 / den))) infinityRest := by
  -- For every number of places, because 2^1074 itself is not to be computed.
  have scale (places : Nat) : num <<< places = num * 2 ^ places := Nat.shiftLeft_eq num places
  rw [← scale 1074]
  rfl

/-- A quotient below a power of two of at most 2^1023 rounds to less than infinity. -/
theorem nearestRest_lt {num den power : Nat} (positive : 0 < den) (bounded : num < den * 2 ^ power)
    (small : power ≤ 1023) : nearestRest num den < infinityRest := by
  have units_lt : num * 2 ^ 1074 / den < 2 ^ (power + 1021 + 53) := scaled_div_lt positive bounded 1074
  have places := excessPlaces_le units_lt
  have significand := div_excessPlaces_lt (num * 2 ^ 1074 / den)
  have rounded := roundHalfEven_le (num * 2 ^ 1074) (den * 2 ^ excessPlaces (num * 2 ^ 1074 / den))
  rw [← Nat.div_div_eq_div_mul] at rounded
  rw [nearestRest_eq, infinityRest]
  omega

theorem isFinite_ofInt {n : Int} (nonnegative : 0 ≤ n) (bounded : n < 2 ^ 64) :
    (ofInt n).isFinite = true := by
  have size : n.natAbs < 1 * 2 ^ 64 := by omega
  exact isFinite_ofSignAndRest _ (nearestRest_lt (by decide) size (by decide))

theorem isFinite_ofInt_of_large {n : Int} (large : 2 ^ 63 ≤ n) (bounded : n < 2 ^ 64) :
    (ofInt n).isFinite = true :=
  isFinite_ofInt (by omega) bounded

end Criteria.Binary64
