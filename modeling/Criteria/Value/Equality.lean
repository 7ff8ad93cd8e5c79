import Criteria.Binary64.Arithmetic
import Criteria.Value.Basic

/-!
Comparing values. Numbers compare by what they denote, exactly and across kinds, and a boolean beside
a number counts as zero or one; lists and mappings compare part by part. A NaN equals nothing, so this
equality is not reflexive.
-/
namespace Criteria

-- See the note on powers in Criteria.Binary64.Basic.
attribute [local instance (high)] instPowNat

inductive Numeral where
  | whole (n : Int64)
  | real (x : Binary64)

namespace Numeral

def wholeLimit (negative : Bool) : Binary64 := .ofSignAndRest negative (1086 * 2 ^ (52 : Nat))

/-- The order of an integer against a double, unless that is a NaN. The integer is never rounded: between the
limits it is compared with the whole part first, and with a tie the fraction decides. -/
def compareWhole? (n : Int64) (x : Binary64) : Option Ordering :=
  if x.isNaN then none
  else if (x.compare? (wholeLimit false)).any Ordering.isGE then some .lt
  else if (x.compare? (wholeLimit true)).any Ordering.isLT then some .gt
  else
    let whole := x.trunc
    let fraction := x.sub whole
    (Binary64.zero.compare? fraction).map fun order =>
      (Ord.compare n.toInt whole.toInt64.toInt).then order

def compare? : Numeral → Numeral → Option Ordering
  | .whole left, .whole right => some (Ord.compare left.toInt right.toInt)
  | .real left, .real right => left.compare? right
  | .whole left, .real right => compareWhole? left right
  | .real left, .whole right => (compareWhole? right left).map Ordering.swap

def same (left right : Numeral) : Bool := left.compare? right == some .eq

end Numeral

namespace Value

def numeral? : Value → Option Numeral
  | .bool b => some (.whole (if b then 1 else 0))
  | .int n => some (.whole n)
  | .float x => some (.real x)
  | _ => none

def sameNumber (left right : Value) : Bool :=
  match left.numeral?, right.numeral? with
  | some a, some b => a.same b
  | _, _ => false

mutual

def equals : Value → Value → Bool
  | .null, .null => true
  | .bool left, .bool right => left == right
  | .string left, .string right => left == right
  | .list left, .list right => equalItems left right
  | .map left, .map right => equalFields left right
  | left, right => sameNumber left right

def equalItems : List Value → List Value → Bool
  | [], [] => true
  | left :: lefts, right :: rights => equals left right && equalItems lefts rights
  | _, _ => false

def equalFields : Fields Value → Fields Value → Bool
  | [], [] => true
  | (leftName, left) :: lefts, (rightName, right) :: rights =>
    leftName == rightName && equals left right && equalFields lefts rights
  | _, _ => false

end

instance : BEq Value := ⟨equals⟩

end Value

end Criteria
