
/-!
Double-precision numbers as their 64 bits, read exactly. Every finite number is a whole multiple of
the smallest positive one, 2^-1074, so two finite numbers are compared by comparing two integers and
nothing is ever rounded.
-/
namespace Criteria

-- Powers are those of the core library, whatever else is imported. The exponents carry their type, so that no
-- default is asked for.
attribute [local instance (high)] instPowNat

/-- A double-precision number, held as its interchange bits. Two values are structurally equal
exactly when their bits agree, so the two zeros differ and a NaN is itself. -/
structure Binary64 where
  bits : UInt64
deriving DecidableEq, Repr

/-- A point of the extended real line that a double can denote, in units of 2^-1074. -/
inductive Extent where
  | negInfinity
  | finite (units : Int)
  | posInfinity
deriving DecidableEq, Repr

namespace Extent

protected def compare : Extent → Extent → Ordering
  | .finite left, .finite right => Ord.compare left right
  | .negInfinity, .negInfinity => .eq
  | .posInfinity, .posInfinity => .eq
  | .negInfinity, _ => .lt
  | _, .negInfinity => .gt
  | .posInfinity, _ => .gt
  | _, .posInfinity => .lt

def ofInt (n : Int) : Extent := .finite (n * 2 ^ (1074 : Nat))

end Extent

namespace Binary64

def biased (x : Binary64) : Nat := x.bits.toNat / 2 ^ (52 : Nat) % 2 ^ (11 : Nat)

def fraction (x : Binary64) : Nat := x.bits.toNat % 2 ^ (52 : Nat)

def negative (x : Binary64) : Bool := decide (2 ^ (63 : Nat) ≤ x.bits.toNat)

def isNaN (x : Binary64) : Bool := x.biased == 2047 && x.fraction != 0

def isFinite (x : Binary64) : Bool := x.biased != 2047

def significand (x : Binary64) : Nat :=
  if x.biased = 0 then x.fraction else 2 ^ (52 : Nat) + x.fraction

def shift (x : Binary64) : Nat := x.biased - 1

def magnitude (x : Binary64) : Nat := x.significand * 2 ^ x.shift

def extent? (x : Binary64) : Option Extent :=
  if x.isFinite then
    some (.finite (if x.negative then -(x.magnitude : Int) else x.magnitude))
  else if x.isNaN then none
  else if x.negative then some .negInfinity
  else some .posInfinity

def ofSignAndRest (negative : Bool) (rest : Nat) : Binary64 :=
  ⟨UInt64.ofNat (if negative then 2 ^ (63 : Nat) + rest else rest)⟩

def infinityRest : Nat := 2047 * 2 ^ (52 : Nat)

def posInfinity : Binary64 := ofSignAndRest false infinityRest

def negInfinity : Binary64 := ofSignAndRest true infinityRest

def nan : Binary64 := ofSignAndRest false (infinityRest + 2 ^ (51 : Nat))

end Binary64

end Criteria
