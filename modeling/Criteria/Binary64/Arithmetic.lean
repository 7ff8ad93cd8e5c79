import Criteria.Binary64.Rounding

/-!
Operations on doubles: the order, the whole part, the difference, and the conversion to an integer. The
difference is rounded once, from its exact value.
-/
namespace Criteria.Binary64

-- See the note on powers in Criteria.Binary64.Basic.
attribute [local instance (high)] instPowNat

def zero : Binary64 := ofSignAndRest false 0

def compare? (left right : Binary64) : Option Ordering :=
  match left.extent?, right.extent? with
  | some a, some b => some (a.compare b)
  | _, _ => none

def rest (x : Binary64) : Nat := x.bits.toNat % 2 ^ (63 : Nat)

/-- The whole part, of the same sign. A number below one has none, from 2^52 on every number is whole, and in
between the bits below the binary point are cleared. -/
def trunc (x : Binary64) : Binary64 :=
  if x.biased < 1023 then ofSignAndRest x.negative 0
  else if 1075 ≤ x.biased then x
  else
    let places := 1075 - x.biased
    ofSignAndRest x.negative (x.rest / 2 ^ places * 2 ^ places)

/-- The integer of sixty-four bits next to a number on the side of zero. What lies outside their range becomes
the end of the range, and a NaN becomes zero. -/
def toInt64 (x : Binary64) : Int64 :=
  match x.extent? with
  | none => 0
  | some .negInfinity => Int64.minValue
  | some .posInfinity => Int64.maxValue
  | some (.finite units) => Int64.ofIntClamp (units.tdiv (2 ^ (1074 : Nat)))

/-- The double nearest to the difference. Equal numbers differ by the positive zero, except that a negative
zero less a positive one stays negative. -/
def sub (left right : Binary64) : Binary64 :=
  match left.extent?, right.extent? with
  | some (.finite a), some (.finite b) =>
    if a = b then ofSignAndRest (left.negative && !right.negative) 0
    else nearest (decide (a < b)) (a - b).natAbs (1 <<< 1074)
  | some .posInfinity, some .posInfinity => nan
  | some .negInfinity, some .negInfinity => nan
  | some .posInfinity, some _ => posInfinity
  | some .negInfinity, some _ => negInfinity
  | some (.finite _), some .posInfinity => negInfinity
  | some (.finite _), some .negInfinity => posInfinity
  | _, _ => nan

end Criteria.Binary64
