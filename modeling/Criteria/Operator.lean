import Criteria.Value.Basic

/-!
The operators of conditions and the two ways of combining rules, with their names and with the kinds of
reference that each operator takes.
-/
namespace Criteria

inductive Operator where
  | eq
  | gt
  | gte
  | lt
  | lte
  | isIn
  | contains
  | regex
deriving DecidableEq, Repr

inductive Logic where
  | and
  | or
deriving DecidableEq, Repr

namespace Operator

def all : List Operator := [.eq, .gt, .gte, .lt, .lte, .isIn, .contains, .regex]

def name : Operator → String
  | .eq => "eq"
  | .gt => "gt"
  | .gte => "gte"
  | .lt => "lt"
  | .lte => "lte"
  | .isIn => "in"
  | .contains => "contains"
  | .regex => "regex"

def ofName? (word : String) : Option Operator := all.find? fun operator => operator.name == word

def allowedFor : Kind → List Operator
  | .string => [.eq, .contains, .regex]
  | .boolean => [.eq, .contains]
  | .integer => [.eq, .gt, .gte, .lt, .lte, .contains]
  | .float => [.eq, .gt, .gte, .lt, .lte, .contains]
  | .list => [.eq, .isIn, .contains]
  | .null => [.eq]
  | .mapping => []

def accepts (operator : Operator) (kind : Kind) : Bool := (allowedFor kind).contains operator

theorem ofName?_name (operator : Operator) : ofName? operator.name = some operator := by
  cases operator <;> decide

end Operator

namespace Logic

def name : Logic → String
  | .and => "and"
  | .or => "or"

/-- The logic that a word names, in any mixture of upper and lower case. -/
def ofName? (word : String) : Option Logic :=
  let lower := word.toList.map Char.toLower
  if lower = ['a', 'n', 'd'] then some .and
  else if lower = ['o', 'r'] then some .or
  else none

/-- The answer of a set without rules, which every rule has to give for the next one to be asked. -/
def neutral : Logic → Bool
  | .and => true
  | .or => false

theorem ofName?_name (logic : Logic) : ofName? logic.name = some logic := by
  cases logic <;> decide

end Logic

end Criteria
