import Criteria.Proofs.Value.Equality
import Mathlib.Data.EReal.Basic
import Mathlib.Order.Compare
import Mathlib.Tactic.FieldSimp

/-!
The numbers that numeric values stand for, as numbers of the extended real line. A double is read off its sign,
its exponent and its fraction as the standard for them says. Counting in units of 2^-1074 gives the same
numbers, so comparing two counts is comparing two numbers.
-/
namespace Criteria

namespace Extent

noncomputable def toEReal : Extent → EReal
  | .negInfinity => ⊥
  | .finite units => ((units * 2 ^ (-1074 : ℤ) : ℝ) : EReal)
  | .posInfinity => ⊤

theorem compare_compares (left right : Extent) :
    (left.compare right).Compares left.toEReal right.toEReal := by
  have unit : (0 : ℝ) < 2 ^ (-1074 : ℤ) := zpow_pos two_pos _
  cases left with
  | negInfinity =>
    cases right with
    | negInfinity => exact rfl
    | finite b => exact EReal.bot_lt_coe _
    | posInfinity => exact bot_lt_top
  | posInfinity =>
    cases right with
    | negInfinity => exact bot_lt_top
    | finite b => exact EReal.coe_lt_top _
    | posInfinity => exact rfl
  | finite a =>
    cases right with
    | negInfinity => exact EReal.bot_lt_coe _
    | posInfinity => exact EReal.coe_lt_top _
    | finite b =>
      have scale {a b : ℤ} (before : a < b) : (finite a).toEReal < (finite b).toEReal :=
        EReal.coe_lt_coe_iff.2 (mul_lt_mul_of_pos_right (Int.cast_lt.2 before) unit)
      rw [Extent.compare]
      rcases Int.lt_trichotomy a b with before | same | behind
      · rw [Int.compare_eq_lt.2 before]
        exact scale before
      · rw [Int.compare_eq_eq.2 same, same]
        exact rfl
      · rw [Int.compare_eq_gt.2 behind]
        exact scale behind

theorem toEReal_ofInt (n : ℤ) : (ofInt n).toEReal = ((n : ℝ) : EReal) := by
  have unit : ((2 ^ 1074 : Nat) : ℝ) * 2 ^ (-1074 : ℤ) = 1 := by
    rw [Nat.cast_pow, Nat.cast_ofNat, ← zpow_natCast, ← zpow_add₀ two_ne_zero]
    rfl
  rw [ofInt_eq, toEReal, Int.cast_mul, Int.cast_natCast, mul_assoc, unit, mul_one]

end Extent

namespace Binary64

/-- The size of a finite number. The fraction stands behind a leading one, except that the numbers with the
lowest exponent bits have a leading zero and the exponent of those above them. -/
noncomputable def size (x : Binary64) : ℝ :=
  if x.biased = 0 then 2 ^ (-1022 : ℤ) * (x.fraction / 2 ^ 52)
  else 2 ^ ((x.biased : ℤ) - 1023) * (1 + x.fraction / 2 ^ 52)

/-- The number that the bits denote. The highest exponent bits are those of the infinities; a NaN has them too
and denotes nothing. -/
noncomputable def toEReal (x : Binary64) : EReal :=
  if x.biased = 2047 then if x.negative then ⊥ else ⊤
  else ((if x.negative then -x.size else x.size : ℝ) : EReal)

theorem size_eq (x : Binary64) : x.size = x.magnitude * 2 ^ (-1074 : ℤ) := by
  have lowest : (2 : ℝ) ^ (-1022 : ℤ) = 2 ^ 52 * 2 ^ (-1074 : ℤ) := by
    rw [← zpow_natCast, ← zpow_add₀ two_ne_zero]
    rfl
  unfold size magnitude significand shift
  by_cases subnormal : x.biased = 0
  · rw [if_pos subnormal, if_pos subnormal, subnormal, lowest, Nat.zero_sub, Nat.pow_zero, Nat.mul_one]
    field_simp
  · have exponent : (x.biased : ℤ) - 1023 = (x.biased - 1 : Nat) + -1022 := by omega
    rw [if_neg subnormal, if_neg subnormal, exponent, zpow_add₀ two_ne_zero, zpow_natCast, lowest,
      Nat.cast_mul, Nat.cast_add, Nat.cast_pow, Nat.cast_pow, Nat.cast_ofNat]
    field_simp

/-- The point that the bits denote lies at their number. -/
theorem toEReal_of_extent? {x : Binary64} {point : Extent} (denotes : x.extent? = some point) :
    point.toEReal = x.toEReal := by
  by_cases finite : x.isFinite = true
  · obtain rfl := Option.some.inj ((extent?_of_isFinite finite).symm.trans denotes)
    rw [toEReal, if_neg (by simpa [isFinite] using finite), Extent.toEReal, units, size_eq]
    cases x.negative <;> simp
  · rw [toEReal, if_pos (by simpa [isFinite] using finite)]
    rw [extent?, if_neg finite] at denotes
    split at denotes
    · cases denotes
    · cases negative : x.negative <;> simp only [negative] at denotes <;> cases denotes <;> rfl

theorem extent?_eq_none_iff (x : Binary64) : x.extent? = none ↔ x.isNaN = true := by
  unfold extent?
  by_cases finite : x.isFinite = true
  · simp [finite, ((isFinite_iff x).1 finite).1]
  · cases x.isNaN <;> cases x.negative <;> simp [finite]

end Binary64

namespace Value

noncomputable def toEReal : Value → EReal
  | .bool b => if b then 1 else 0
  | .int n => ((n.toInt : ℝ) : EReal)
  | .float x => x.toEReal
  | _ => 0

def isNaN : Value → Bool
  | .float x => x.isNaN
  | _ => false

theorem toEReal_of_extent? {value : Value} {point : Extent} (denotes : value.extent? = some point) :
    point.toEReal = value.toEReal := by
  rcases numeric_cases denotes with ⟨b, rfl⟩ | ⟨n, rfl⟩ | ⟨x, rfl⟩
  · obtain rfl := Option.some.inj denotes
    rw [Extent.toEReal_ofInt, toEReal]
    cases b <;> simp
  · obtain rfl := Option.some.inj denotes
    exact Extent.toEReal_ofInt n.toInt
  · exact Binary64.toEReal_of_extent? denotes

theorem extent?_eq_none_iff {value : Value} {number : Numeral} (numeric : value.numeral? = some number) :
    number.extent? = none ↔ value.isNaN = true := by
  cases value with
  | bool b =>
    obtain rfl := Option.some.inj numeric
    simp [Numeral.extent?, isNaN]
  | int n =>
    obtain rfl := Option.some.inj numeric
    simp [Numeral.extent?, isNaN]
  | float x =>
    obtain rfl := Option.some.inj numeric
    exact Binary64.extent?_eq_none_iff x
  | null => cases numeric
  | string text => cases numeric
  | list items => cases numeric
  | map fields => cases numeric

end Value

end Criteria
