import Criteria.Binary64.Basic
import Criteria.Fields

/-!
The values that a document holds and that a condition compares with. Integers and floats are kept
apart; how they compare is the matter of `Criteria.Value.Equality`. Plain data has a form as a value.
-/
namespace Criteria

/-- A node of a document, or the reference of a condition. The fields of a mapping are meant to be
sorted, which `Value.WellFormed` states. -/
inductive Value where
  | null
  | bool (b : Bool)
  | int (n : Int64)
  | float (x : Binary64)
  | string (s : String)
  | list (items : List Value)
  | map (fields : List (String × Value))

inductive Kind where
  | null
  | boolean
  | integer
  | float
  | string
  | list
  | mapping
deriving DecidableEq, Repr

namespace Kind

def name : Kind → String
  | .null => "null"
  | .boolean => "boolean"
  | .integer => "integer"
  | .float => "float"
  | .string => "string"
  | .list => "list"
  | .mapping => "mapping"

def all : List Kind := [.null, .boolean, .integer, .float, .string, .list, .mapping]

def ofName? (word : String) : Option Kind := all.find? fun kind => kind.name == word

end Kind

namespace Value

instance : Inhabited Value := ⟨.null⟩

def kind : Value → Kind
  | .null => .null
  | .bool _ => .boolean
  | .int _ => .integer
  | .float _ => .float
  | .string _ => .string
  | .list _ => .list
  | .map _ => .mapping

def isNull : Value → Bool
  | .null => true
  | _ => false

def isScalar : Value → Bool
  | .list _ => false
  | .map _ => false
  | _ => true

mutual

def WellFormed : Value → Prop
  | .list items => WellFormedItems items
  | .map fields => Fields.Sorted fields ∧ WellFormedFields fields
  | _ => True

def WellFormedItems : List Value → Prop
  | [] => True
  | item :: rest => WellFormed item ∧ WellFormedItems rest

def WellFormedFields : Fields Value → Prop
  | [] => True
  | (_, value) :: rest => WellFormed value ∧ WellFormedFields rest

end

theorem wellFormedItems_iff (items : List Value) :
    WellFormedItems items ↔ ∀ item ∈ items, item.WellFormed :=
  iff_forall_of_cons trivial (fun _ _ => Iff.rfl) items

theorem wellFormedFields_iff (fields : Fields Value) :
    WellFormedFields fields ↔ ∀ field ∈ fields, field.2.WellFormed :=
  iff_forall_of_cons trivial (fun _ _ => Iff.rfl) fields

end Value

class ToValue (α : Type) where
  toValue : α → Value

export ToValue (toValue)

instance : ToValue Value := ⟨id⟩

instance : ToValue Bool := ⟨.bool⟩

instance : ToValue Int64 := ⟨.int⟩

instance : ToValue Int32 := ⟨fun n => .int n.toInt64⟩

instance : ToValue Binary64 := ⟨.float⟩

instance : ToValue String := ⟨.string⟩

instance {α : Type} [ToValue α] : ToValue (List α) := ⟨fun items => .list (items.map toValue)⟩

instance {α : Type} [ToValue α] : ToValue (Option α) := ⟨fun held => held.elim .null toValue⟩

end Criteria
