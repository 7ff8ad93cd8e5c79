import Criteria.Binary64.Basic

/-!
The fewest decimal digits that read back as a given double. For one, two, up to seventeen digits the
two neighbours of the number on that decimal grid are tested against the interval of reals that
round to the number; the first grid with a hit wins, and of two hits the nearer one.
-/
namespace Criteria.Binary64

-- See the note on powers in Criteria.Binary64.Basic.
attribute [local instance (high)] instPowNat

inductive Tie where
  | toEven
  | up
deriving DecidableEq, Repr

structure Decimal where
  coefficient : Nat
  exponent : Int
deriving DecidableEq, Repr

structure Interval where
  low : Nat
  centre : Nat
  high : Nat
  closed : Bool

namespace Interval

/-- The reals that round to `x`, over the denominator 2^1076. Below a power of two the neighbour is
only half as far away, and the ends belong to the number whose significand is even. -/
def around (x : Binary64) : Interval :=
  let unit := 2 ^ x.shift
  let centre := 4 * x.significand * unit
  let below := if x.fraction = 0 ∧ 1 < x.biased then unit else 2 * unit
  ⟨centre - below, centre, centre + 2 * unit, x.significand % 2 == 0⟩

def contains (range : Interval) (num den : Nat) : Bool :=
  let point := num * 2 ^ (1076 : Nat)
  if range.closed then decide (range.low * den ≤ point ∧ point ≤ range.high * den)
  else decide (range.low * den < point ∧ point < range.high * den)

end Interval

def Decimal.ratio (d : Decimal) : Nat × Nat :=
  if 0 ≤ d.exponent then (d.coefficient * 10 ^ d.exponent.toNat, 1)
  else (d.coefficient, 10 ^ (-d.exponent).toNat)

def tenTo (exponent : Int) : Nat × Nat := Decimal.ratio ⟨1, exponent⟩

def leadingExponent (num : Nat) : Int :=
  let whole := num / 2 ^ (1076 : Nat)
  if whole ≠ 0 then (Nat.toDigits 10 whole).length - 1
  else
    -- Dividing 10^400 by the reciprocal keeps at least sixty digits of the smallest double.
    (Nat.toDigits 10 (num * 10 ^ (400 : Nat) / 2 ^ (1076 : Nat))).length - 401

def candidate? (tie : Tie) (range : Interval) (leading : Int) (count : Nat) : Option Decimal :=
  let exponent := leading - count + 1
  let (gridNum, gridDen) := tenTo exponent
  -- The centre counted in steps of the grid.
  let num := range.centre * gridDen
  let den := 2 ^ (1076 : Nat) * gridNum
  let floor := num / den
  let twice := 2 * (num % den)
  let lower : Decimal := ⟨floor, exponent⟩
  let upper : Decimal := ⟨floor + 1, exponent⟩
  let fits (d : Decimal) : Bool := range.contains d.ratio.1 d.ratio.2
  let nearer : Decimal :=
    if twice < den then lower
    else if den < twice then upper
    else match tie with
      | .toEven => if floor % 2 = 0 then lower else upper
      | .up => upper
  if fits lower && fits upper then some nearer
  else if fits lower then some lower
  else if fits upper then some upper
  else none

def Decimal.normal : Nat → Decimal → Decimal
  | 0, d => d
  | fuel + 1, d =>
    if d.coefficient ≠ 0 ∧ d.coefficient % 10 = 0 then
      normal fuel ⟨d.coefficient / 10, d.exponent + 1⟩
    else d

/-- The fewest digits that read back as the positive finite number `x`. Seventeen always suffice. -/
def shortest (tie : Tie) (x : Binary64) : Decimal :=
  let range := Interval.around x
  let leading := leadingExponent range.centre
  let best := (List.range 17).findSome? fun count => candidate? tie range leading (count + 1)
  Decimal.normal 20 (best.getD ⟨0, 0⟩)

end Criteria.Binary64
