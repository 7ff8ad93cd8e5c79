import Criteria.Json.Basic
import Criteria.Operator

/-!
What can be wrong with a description of rules, told to whoever wrote it.
-/
namespace Criteria

inductive BuildError where
  | rulesNotMapping (found : Json.Shape)
  | rulesNotSingle (keys : Nat)
  | unknownLogic (name : String)
  | operandsNotList (logic : Logic) (found : Json.Shape)
  | conditionNotMapping (found : Json.Shape)
  | unexpectedKey (key : String)
  | missingAttribute
  | attributeNotString (found : Json.Shape)
  | missingValue
  | unknownOperator (name : String)
  | negateNotBoolean (found : Json.Shape)
  | unsupportedValue (kind : Kind)
  | incompatibleOperator (operator : Operator) (kind : Kind)
  | emptyAttribute
  | invalidPattern (pattern : String)
deriving DecidableEq, Repr

namespace BuildError

def malformedRules (reason : String) : String := "malformed rule set: " ++ reason

def malformedCondition (reason : String) : String := "malformed condition: " ++ reason

/-- The message of an error. Why a pattern cannot be read is for the reader of patterns to say; `explain` is
what it says. -/
def message (explain : String → String) : BuildError → String
  | .rulesNotMapping found => malformedRules ("rule set must be a mapping, not " ++ found.name)
  | .rulesNotSingle keys =>
    malformedRules ("rule set must have exactly one logical operator (found " ++ toString keys ++ ")")
  | .unknownLogic name => "invalid logic type '" ++ name ++ "' (must be 'and' or 'or')"
  | .operandsNotList logic found =>
    malformedRules ("operands of '" ++ logic.name ++ "' must be a list, not " ++ found.name)
  | .conditionNotMapping found => malformedCondition ("condition must be a mapping, not " ++ found.name)
  | .unexpectedKey key => malformedCondition ("unexpected key '" ++ key ++ "'")
  | .missingAttribute => malformedCondition "missing 'attr'"
  | .attributeNotString found => malformedCondition ("'attr' must be a string, not " ++ found.name)
  | .missingValue => malformedCondition "missing 'value'"
  | .unknownOperator name =>
    "unknown operator '" ++ name ++ "'; must be one of: eq, gt, gte, lt, lte, in, contains, regex"
  | .negateNotBoolean found => malformedCondition ("'negate' must be a boolean, not " ++ found.name)
  | .unsupportedValue kind => "unsupported value type: " ++ kind.name
  | .incompatibleOperator operator kind =>
    "operator '" ++ operator.name ++ "' cannot be used with a " ++ kind.name ++ " value"
  | .emptyAttribute => "attribute path must not be empty"
  | .invalidPattern pattern => "invalid regular expression '" ++ pattern ++ "': " ++ explain pattern

end BuildError

end Criteria
