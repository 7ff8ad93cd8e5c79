import Criteria.Text
import Criteria.Value.Basic

/-!
Dotted attribute paths and what they lead to inside a document. A lookup never fails: what is absent is
null.
-/
namespace Criteria

structure Path where
  text : String
  nonempty : text ≠ ""

namespace Path

theorem eq_of_text {left right : Path} (same : left.text = right.text) : left = right := by
  cases left
  cases right
  cases same
  rfl

def segmentsOf (text : String) : List String := (Text.splitDots text.toList).map String.ofList

def ofText? (text : String) : Option Path :=
  if nonempty : text ≠ "" then some ⟨text, nonempty⟩ else none

def segments (path : Path) : List String := segmentsOf path.text

def fieldOrNull (name : String) (fields : Fields Value) : Value := (Fields.get? name fields).getD .null

/-- One name looked up in every element of a list, each of which must be a mapping. -/
def broadcast (name : String) : List Value → Option (List Value)
  | [] => some []
  | .map fields :: rest => (broadcast name rest).map fun others => fieldOrNull name fields :: others
  | _ :: _ => none

/-- One name looked up in a node: in a mapping directly, in a list for every element. Any other node
ends the walk. -/
def step (name : String) : Value → Option Value
  | .map fields => some (fieldOrNull name fields)
  | .list items => (broadcast name items).map .list
  | _ => none

def walk : List String → Value → Value
  | [], node => node
  | name :: rest, node =>
    match step name node with
    | some next => walk rest next
    | none => .null

def resolve (path : Path) (document : Value) : Value := walk path.segments document

end Path

end Criteria
