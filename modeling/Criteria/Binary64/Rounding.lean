import Criteria.Binary64.Basic

/-!
Rounding to the nearest double, a tie going to the even significand. The quotient to round is given
exactly, as a numerator over a denominator, so a decimal text and a large integer are rounded once.
-/
namespace Criteria.Binary64

-- See the note on powers in Criteria.Binary64.Basic.
attribute [local instance (high)] instPowNat

def roundHalfEven (num den : Nat) : Nat :=
  let floor := num / den
  let twice := 2 * (num % den)
  if twice < den then floor
  else if den < twice then floor + 1
  else if floor % 2 = 0 then floor
  else floor + 1

def excessPlaces (units : Nat) : Nat := Nat.log2 units - 52

/-- The sixty-three low bits of the double nearest to `num / den`. The places dropped number the
binade, and a significand that rounds up to the next power of two carries into it by itself. From
the midpoint above the largest finite number on, the answer is infinity. -/
def nearestRest (num den : Nat) : Nat :=
  let scaled := num <<< 1074
  let places := excessPlaces (scaled / den)
  min (places * 2 ^ (52 : Nat) + roundHalfEven scaled (den * 2 ^ places)) infinityRest

def nearest (negative : Bool) (num den : Nat) : Binary64 :=
  ofSignAndRest negative (nearestRest num den)

def ofInt (n : Int) : Binary64 := nearest (decide (n < 0)) n.natAbs 1

/-- The double nearest to `digits * 10 ^ exponent`. Exponents far outside the range of doubles are
settled by the count of digits, before any power of ten is formed. -/
def ofDecimal (negative : Bool) (digits : Nat) (exponent : Int) : Binary64 :=
  let leading := (Nat.toDigits 10 digits).length + exponent
  if digits = 0 then ofSignAndRest negative 0
  else if 400 < leading then ofSignAndRest negative infinityRest
  else if leading < -400 then ofSignAndRest negative 0
  else if 0 ≤ exponent then nearest negative (digits * 10 ^ exponent.toNat) 1
  else nearest negative digits (10 ^ (-exponent).toNat)

end Criteria.Binary64
