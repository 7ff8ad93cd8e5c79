import Criteria.Binary64.Notation
import Criteria.Text
import Criteria.Value.Basic

/-!
The text of a value as people read it: strings stand between quotes with nothing escaped, and a float
is written without an exponent.
-/
namespace Criteria

namespace Binary64

/-- Floats for people: never an exponent, and no fraction on a whole number. Of two equally near
shortest texts the larger is taken. -/
def plainStyle : DecimalStyle := ⟨.up, fun _ => true, false⟩

def plainText (x : Binary64) : String :=
  if x.isFinite then plainStyle.write x
  else if x.isNaN then "NaN"
  else if x.negative then "-inf"
  else "inf"

end Binary64

namespace Value

mutual

def text : Value → String
  | .null => "null"
  | .bool b => Text.truth b
  | .int n => toString n.toInt
  | .float x => x.plainText
  | .string s => "\"" ++ s ++ "\""
  | .list items => "[" ++ Text.commaSeparated (itemTexts items) ++ "]"
  | .map fields => "\x7b" ++ Text.commaSeparated (fieldTexts fields) ++ "\x7d"

def itemTexts : List Value → List String
  | [] => []
  | item :: rest => text item :: itemTexts rest

def fieldTexts : Fields Value → List String
  | [] => []
  | (name, value) :: rest => ("\"" ++ name ++ "\": " ++ text value) :: fieldTexts rest

end

end Value

end Criteria
