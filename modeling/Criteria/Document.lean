import Criteria.Path
import Criteria.Value.Basic
import Criteria.Value.Equality

/-!
Documents that are written path by path. A document is always a mapping.
-/
namespace Criteria

structure Document where
  fields : Fields Value

namespace Document

def empty : Document := ⟨[]⟩

def toValue (document : Document) : Value := .map document.fields

instance : ToValue Document := ⟨toValue⟩

def fieldsOf : Option Value → Fields Value
  | some (.map fields) => fields
  | _ => []

/-- Writes a value at the end of a list of names, making mappings on the way where there are none. -/
def write : List String → Value → Fields Value → Fields Value
  | [], _, fields => fields
  | [last], value, fields => Fields.put last value fields
  | name :: rest, value, fields =>
    Fields.put name (.map (write rest value (fieldsOf (Fields.get? name fields)))) fields

def read? : List String → Value → Option Value
  | [], node => some node
  | name :: rest, .map fields =>
    match Fields.get? name fields with
    | some node => read? rest node
    | none => none
  | _ :: _, _ => none

/-- The document with a value at a dotted path. Whatever is in the way and no mapping is replaced. -/
def insert (document : Document) (path : String) (value : Value) : Document :=
  ⟨write (Path.segmentsOf path) value document.fields⟩

def set {α : Type} [ToValue α] (document : Document) (path : String) (data : α) : Document :=
  document.insert path (ToValue.toValue data)

def get? (document : Document) (path : String) : Option Value :=
  read? (Path.segmentsOf path) document.toValue

instance : BEq Document := ⟨fun left right => left.toValue.equals right.toValue⟩

end Document

end Criteria
