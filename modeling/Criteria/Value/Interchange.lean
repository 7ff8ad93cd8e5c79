import Criteria.Binary64.Rounding
import Criteria.Json.Basic
import Criteria.Value.Basic

/-!
Values as JSON trees and back. An integer beyond the signed range becomes the nearest float, and a
float that is not finite has no JSON form and becomes null; nothing else changes. A tree that stays in
use is copied on the way. The fields of an object are converted one by one; they come sorted and stay so,
and collecting them would leave them as they are.
-/
namespace Criteria.Value

-- See the note on powers in Criteria.Binary64.Basic.
attribute [local instance (high)] instPowNat

/-- An integer that fits sixty-four signed bits stays one. -/
def ofNumber : Json.Number → Value
  | .int n _ => if n < 2 ^ (63 : Nat) then .int (Int64.ofInt n) else .float (Binary64.ofInt n)
  | .float x _ => .float x

mutual

def ofJson : Json → Value
  | .null => .null
  | .bool b => .bool b
  | .number n => ofNumber n
  | .string s => .string s
  | .array items => .list (ofItems items)
  | .object fields => .map (ofFields fields)

def ofItems : List Json → List Value
  | [] => []
  | item :: rest => ofJson item :: ofItems rest

def ofFields : Fields Json → Fields Value
  | [] => []
  | (name, value) :: rest => (name, ofJson value) :: ofFields rest

end

mutual

def copyOfJson : Json → Value
  | .null => .null
  | .bool b => .bool b
  | .number n => ofNumber n
  | .string s => .string s
  | .array items => .list (copiesOfItems items)
  | .object fields => .map (copiesOfFields fields)

def copiesOfItems : List Json → List Value
  | [] => []
  | item :: rest => copyOfJson item :: copiesOfItems rest

def copiesOfFields : Fields Json → Fields Value
  | [] => []
  | (name, value) :: rest => (name, copyOfJson value) :: copiesOfFields rest

end

theorem int64_inRange (n : Int64) : -2 ^ (63 : Nat) ≤ n.toInt ∧ n.toInt < 2 ^ (64 : Nat) := by
  have low := n.le_toInt
  have high := n.toInt_lt
  omega

mutual

def toJson : Value → Json
  | .null => .null
  | .bool b => .bool b
  | .int n => .number (.int n.toInt (int64_inRange n))
  | .float x => if finite : x.isFinite = true then .number (.float x finite) else .null
  | .string s => .string s
  | .list items => .array (toItems items)
  | .map fields => .object (toFields fields)

def toItems : List Value → List Json
  | [] => []
  | item :: rest => toJson item :: toItems rest

def toFields : Fields Value → Fields Json
  | [] => []
  | (name, value) :: rest => (name, toJson value) :: toFields rest

end

end Criteria.Value
