import Criteria.Proofs.Binary64.Whole

/-!
An integer is rounded to the double nearest to it. Its leading bit tells how many low places a double cannot keep.
From the power of two at that bit on, every double is a whole multiple of the first place that is kept, and the
rounding picks the nearest multiple; below that power a double is farther away than the power itself.
-/
namespace Criteria.Binary64

def distance (x : Binary64) (point : Int) : Nat := (x.units - point).natAbs

/-- A finite number is nearest to a point: none lies nearer, and beside another one that lies as near it is the
one with the even fraction. -/
structure IsNearest (x : Binary64) (point : Int) : Prop where
  finite : x.isFinite = true
  least : ∀ y : Binary64, y.isFinite = true → x.distance point ≤ y.distance point
  even : ∀ y : Binary64, y.isFinite = true → y.distance point = x.distance point → y.units ≠ x.units →
    x.fraction % 2 = 0

section Multiples

theorem mul_le_or_add_le_mul (k floor : Int) (step : Nat) :
    k * step ≤ floor * step ∨ floor * step + step ≤ k * step := by
  have nonnegative : (0 : Int) ≤ step := Int.natCast_nonneg step
  by_cases below : k ≤ floor
  · exact .inl (Int.mul_le_mul_of_nonneg_right below nonnegative)
  · have next : (floor + 1) * step ≤ k * step := Int.mul_le_mul_of_nonneg_right (by omega) nonnegative
    rw [Int.add_mul, Int.one_mul] at next
    exact .inr next

variable {step : Nat} (positive : 0 < step) (num : Nat) (k : Int)

include positive

/-- No multiple of a step lies nearer to a number than the one that rounding picks. -/
theorem roundHalfEven_nearest :
    ((roundHalfEven num step : Int) * step - num).natAbs ≤ (k * step - num).natAbs := by
  have whole : ((num / step : Nat) : Int) * step + (num % step : Nat) = num := by
    rw [← Int.natCast_mul, ← Int.natCast_add, Nat.div_add_mod']
  have remainder := Nat.mod_lt num positive
  have side := mul_le_or_add_le_mul k (num / step : Nat) step
  unfold roundHalfEven
  dsimp only
  split_ifs
  · omega
  · rw [Int.natCast_add, Int.add_mul]
    omega
  · omega
  · rw [Int.natCast_add, Int.add_mul]
    omega

theorem roundHalfEven_even
    (tie : (k * step - num).natAbs = ((roundHalfEven num step : Int) * step - num).natAbs)
    (other : k * step ≠ (roundHalfEven num step : Int) * step) : roundHalfEven num step % 2 = 0 := by
  have whole : ((num / step : Nat) : Int) * step + (num % step : Nat) = num := by
    rw [← Int.natCast_mul, ← Int.natCast_add, Nat.div_add_mod']
  have remainder := Nat.mod_lt num positive
  have side := mul_le_or_add_le_mul k (num / step : Nat) step
  have beyond := mul_le_or_add_le_mul k ((num / step : Nat) + 1) step
  have before := mul_le_or_add_le_mul k ((num / step : Nat) - 1) step
  rw [Int.add_mul, Int.one_mul] at beyond
  rw [Int.sub_mul, Int.one_mul] at before
  unfold roundHalfEven at tie other ⊢
  dsimp only at tie other ⊢
  split_ifs at tie other ⊢
  · omega
  · rw [Int.natCast_add, Int.add_mul] at tie other
    omega
  · assumption
  · omega

end Multiples

/-- The rounded significand may be one more than fifty-three bits hold; then the exponent takes it over. -/
theorem magnitude_ofSignAndRest_carry (negative : Bool) {places significand : Nat} (low : 2 ^ 52 ≤ significand)
    (high : significand ≤ 2 ^ 53) (small : places * 2 ^ 52 + significand < 2 ^ 63) :
    (ofSignAndRest negative (places * 2 ^ 52 + significand)).magnitude = significand * 2 ^ places ∧
      (ofSignAndRest negative (places * 2 ^ 52 + significand)).fraction % 2 = significand % 2 := by
  have fraction := @fraction_ofSignAndRest negative (places * 2 ^ 52 + significand)
  have biased := biased_ofSignAndRest negative small
  refine ⟨?_, by omega⟩
  rcases Nat.lt_or_eq_of_le high with fits | carries
  · have exponent : (ofSignAndRest negative (places * 2 ^ 52 + significand)).biased = places + 1 := by omega
    rw [magnitude, Binary64.significand, shift, exponent, fraction, if_neg (by omega)]
    congr 1
    omega
  · subst carries
    have exponent : (ofSignAndRest negative (places * 2 ^ 52 + 2 ^ 53)).biased = places + 2 := by omega
    have none : (places * 2 ^ 52 + 2 ^ 53) % 2 ^ 52 = 0 := by omega
    have power : 2 ^ (places + 2 - 1) = 2 * 2 ^ places := by rw [Nat.add_sub_assoc (by decide), Nat.pow_succ']
    rw [magnitude, Binary64.significand, shift, exponent, fraction, none, if_neg (by omega), power, ← Nat.mul_assoc]
    rfl

/-- The numbers from a power of two on are multiples of the last place of fifty-three bits there. -/
theorem exists_units_eq_mul {y : Binary64} {places : Nat} (above : (2 ^ 52 * 2 ^ places : Nat) ≤ y.units) :
    ∃ k : Int, y.units = k * (2 ^ places : Nat) := by
  have positive : 0 < 2 ^ 52 * 2 ^ places := Nat.mul_pos (by decide) (Nat.two_pow_pos places)
  have size : y.units = y.magnitude := by
    rw [units] at above ⊢
    split at above
    · omega
    · rename_i sign
      exact if_neg sign
  have binade : 2 ^ (52 + places) < 2 ^ (53 + y.shift) := by
    rw [Nat.pow_add]
    have bound := y.magnitude_lt
    omega
  have exponent : places ≤ y.shift := by
    have order := (Nat.pow_lt_pow_iff_right (by decide)).1 binade
    omega
  obtain ⟨k, multiple⟩ : 2 ^ places ∣ y.magnitude := Nat.dvd_mul_left_of_dvd (Nat.pow_dvd_pow 2 exponent) _
  refine ⟨k, ?_⟩
  rw [size, multiple, Nat.mul_comm, Int.natCast_mul]

/-- A rounded significand at its places makes the nearest number, if the point lies in their binade. -/
theorem isNearest_of_roundHalfEven {x : Binary64} {point places : Nat} (finite : x.isFinite = true)
    (low : 2 ^ 52 * 2 ^ places ≤ point)
    (size : x.units = (roundHalfEven point (2 ^ places) : Int) * (2 ^ places : Nat))
    (parity : x.fraction % 2 = roundHalfEven point (2 ^ places) % 2) : x.IsNearest point := by
  have step : 0 < 2 ^ places := Nat.two_pow_pos places
  have nearest := roundHalfEven_nearest step point
  have farther (y : Binary64) (below : ¬ ((2 ^ 52 * 2 ^ places : Nat) : Int) ≤ y.units) :
      x.distance point < y.distance point := by
    -- The power of two is a multiple of the step as well.
    have power := nearest (2 ^ 52 : Nat)
    rw [← Int.natCast_mul] at power
    rw [distance, distance, size]
    omega
  refine ⟨finite, ?_, ?_⟩
  · intro y finite'
    by_cases above : ((2 ^ 52 * 2 ^ places : Nat) : Int) ≤ y.units
    · obtain ⟨k, multiple⟩ := exists_units_eq_mul above
      rw [distance, distance, size, multiple]
      exact nearest k
    · exact Nat.le_of_lt (farther y above)
  · intro y finite' tie other
    by_cases above : ((2 ^ 52 * 2 ^ places : Nat) : Int) ≤ y.units
    · obtain ⟨k, multiple⟩ := exists_units_eq_mul above
      rw [distance, distance, size, multiple] at tie
      rw [size, multiple] at other
      rw [parity]
      exact roundHalfEven_even step point k tie other
    · exact absurd tie (Nat.ne_of_gt (farther y above))

theorem le_roundHalfEven (num den : Nat) : num / den ≤ roundHalfEven num den := by
  unfold roundHalfEven
  dsimp only
  split_ifs <;> omega

theorem le_of_excessPlaces {units : Nat} (large : 2 ^ 52 ≤ units) : 2 ^ 52 * 2 ^ excessPlaces units ≤ units := by
  have nonzero : units ≠ 0 := by omega
  have leading := (Nat.le_log2 nonzero).2 large
  have places : 52 + excessPlaces units = units.log2 := by
    unfold excessPlaces
    omega
  rw [← Nat.pow_add, places]
  exact Nat.log2_self_le nonzero

/-- The double whose low bits number the binade of a point and hold its rounded significand is nearest to it. -/
theorem isNearest_ofSignAndRest {point : Nat} (large : 2 ^ 52 ≤ point)
    (finite : excessPlaces point * 2 ^ 52 + roundHalfEven point (2 ^ excessPlaces point) < infinityRest) :
    (ofSignAndRest false (excessPlaces point * 2 ^ 52 + roundHalfEven point (2 ^ excessPlaces point))).IsNearest
      point := by
  have low := le_of_excessPlaces large
  have quotient : 2 ^ 52 ≤ point / 2 ^ excessPlaces point := (Nat.le_div_iff_mul_le (Nat.two_pow_pos _)).2 low
  have least := le_roundHalfEven point (2 ^ excessPlaces point)
  have most := roundHalfEven_le point (2 ^ excessPlaces point)
  have fits := div_excessPlaces_lt point
  have small := Nat.lt_trans finite (show infinityRest < 2 ^ 63 by decide)
  obtain ⟨size, parity⟩ := magnitude_ofSignAndRest_carry false (Nat.le_trans quotient least) (by omega) small
  have units : (ofSignAndRest false
      (excessPlaces point * 2 ^ 52 + roundHalfEven point (2 ^ excessPlaces point))).units =
        (roundHalfEven point (2 ^ excessPlaces point) : Int) * (2 ^ excessPlaces point : Nat) := by
    rw [Binary64.units, negative_ofSignAndRest false small, size, Int.natCast_mul]
    rfl
  exact isNearest_of_roundHalfEven (isFinite_ofSignAndRest false finite) low units parity

theorem nearestRest_eq_of_lt {num : Nat} (finite : nearestRest num 1 < infinityRest) :
    nearestRest num 1 = excessPlaces (num * 2 ^ 1074) * 2 ^ 52 +
      roundHalfEven (num * 2 ^ 1074) (2 ^ excessPlaces (num * 2 ^ 1074)) := by
  rw [nearestRest_eq, Nat.div_one, Nat.one_mul] at finite ⊢
  omega

theorem two_pow_le_mul {num low high : Nat} (positive : 0 < num) (order : low ≤ high) :
    2 ^ low ≤ num * 2 ^ high := by
  apply Nat.le_trans (Nat.pow_le_pow_right (by decide) order)
  exact Nat.le_mul_of_pos_left _ positive

/-- A positive integer of sixty-four bits is rounded to the nearest double. -/
theorem isNearest_ofInt {n : Int} (positive : 0 < n) (bounded : n < 2 ^ 64) :
    (ofInt n).IsNearest (n * (2 ^ 1074 : Nat)) := by
  have size : n.natAbs < 1 * 2 ^ 64 := by omega
  have finite := nearestRest_lt (by decide) size (by decide)
  have rest := nearestRest_eq_of_lt finite
  have sign : decide (n < 0) = false := decide_eq_false (by omega)
  have point : n * (2 ^ 1074 : Nat) = (n.natAbs * 2 ^ 1074 : Nat) := by
    rw [Int.natCast_mul, Int.natAbs_of_nonneg (Int.le_of_lt positive)]
  have large : 2 ^ 52 ≤ n.natAbs * 2 ^ 1074 := two_pow_le_mul (by omega) (by decide)
  rw [ofInt, nearest, sign, point, rest]
  rw [rest] at finite
  exact isNearest_ofSignAndRest large finite

-- The greatest integer of sixty-four bits becomes the power of two above it.
example : ofInt (2 ^ 64 - 1) = ofSignAndRest false ((1023 + 64) * 2 ^ 52) := by decide +kernel

end Criteria.Binary64
