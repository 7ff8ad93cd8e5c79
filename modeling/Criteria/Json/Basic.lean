import Criteria.Binary64.Basic
import Criteria.Fields

/-!
Trees of the JSON data format. A number is an integer of 64 bits, signed or unsigned, or a finite
double; the fields of an object have distinct names in increasing order.
-/
namespace Criteria

-- See the note on powers in Criteria.Binary64.Basic.
attribute [local instance (high)] instPowNat

inductive Json.Number where
  | int (n : Int) (inRange : -2 ^ (63 : Nat) ≤ n ∧ n < 2 ^ (64 : Nat))
  | float (x : Binary64) (finite : x.isFinite = true)

inductive Json.Shape where
  | null
  | boolean
  | number
  | string
  | list
  | mapping
deriving DecidableEq, Repr

def Json.Shape.name : Json.Shape → String
  | .null => "null"
  | .boolean => "boolean"
  | .number => "number"
  | .string => "string"
  | .list => "list"
  | .mapping => "mapping"

inductive Json where
  | null
  | bool (b : Bool)
  | number (n : Json.Number)
  | string (s : String)
  | array (items : List Json)
  | object (fields : List (String × Json))

namespace Json

def shape : Json → Shape
  | .null => .null
  | .bool _ => .boolean
  | .number _ => .number
  | .string _ => .string
  | .array _ => .list
  | .object _ => .mapping

mutual

def depth : Json → Nat
  | .array items => depthItems items + 1
  | .object fields => depthFields fields + 1
  | _ => 0

def depthItems : List Json → Nat
  | [] => 0
  | item :: rest => max (depth item) (depthItems rest)

def depthFields : Fields Json → Nat
  | [] => 0
  | (_, value) :: rest => max (depth value) (depthFields rest)

end

mutual

def WellFormed : Json → Prop
  | .array items => WellFormedItems items
  | .object fields => Fields.Sorted fields ∧ WellFormedFields fields
  | _ => True

def WellFormedItems : List Json → Prop
  | [] => True
  | item :: rest => WellFormed item ∧ WellFormedItems rest

def WellFormedFields : Fields Json → Prop
  | [] => True
  | (_, value) :: rest => WellFormed value ∧ WellFormedFields rest

end

theorem wellFormedItems_iff (items : List Json) :
    WellFormedItems items ↔ ∀ item ∈ items, item.WellFormed :=
  iff_forall_of_cons trivial (fun _ _ => Iff.rfl) items

theorem wellFormedFields_iff (fields : Fields Json) :
    WellFormedFields fields ↔ ∀ field ∈ fields, field.2.WellFormed :=
  iff_forall_of_cons trivial (fun _ _ => Iff.rfl) fields

theorem depthItems_le_iff (items : List Json) (levels : Nat) :
    depthItems items ≤ levels ↔ ∀ item ∈ items, item.depth ≤ levels := by
  induction items with
  | nil => simp [depthItems]
  | cons item rest ih => rw [depthItems, Nat.max_le, ih, List.forall_mem_cons]

end Json

end Criteria
