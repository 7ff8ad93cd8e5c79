import Criteria.Json.Printer
import Criteria.Json.Reader
import Criteria.RuleSet.Basic
import Criteria.Value.Interchange

/-!
Rules as JSON descriptions. A set is an object with one key, "and" or "or", over a list; a condition is
an object with the keys "attr" and "value" and, if wanted, "op" and "negate". Building reports the first
part that is wrong.
-/
namespace Criteria

namespace Condition

def allowedKeys : List String := ["attr", "op", "value", "negate"]

def describedAttribute (fields : Fields Json) : Except BuildError String :=
  match Fields.get? "attr" fields with
  | some (.string subject) => .ok subject
  | some other => .error (.attributeNotString other.shape)
  | none => .error .missingAttribute

def describedOperator (fields : Fields Json) : Except BuildError Operator :=
  match Fields.get? "op" fields with
  | none => .ok .eq
  | some (.string name) =>
    match Operator.ofName? name with
    | some operator => .ok operator
    | none => .error (.unknownOperator name)
  | some other => .error (.unknownOperator other.text)

def describedNegation (fields : Fields Json) : Except BuildError Bool :=
  match Fields.get? "negate" fields with
  | none => .ok false
  | some (.bool negated) => .ok negated
  | some other => .error (.negateNotBoolean other.shape)

def ofFields (fields : Fields Json) : Except BuildError Condition :=
  match fields.find? fun field => !allowedKeys.contains field.1 with
  | some (key, _) => .error (.unexpectedKey key)
  | none => do
    let subject ← describedAttribute fields
    match Fields.get? "value" fields with
    | none => .error .missingValue
    | some value => do
      let operator ← describedOperator fields
      let negated ← describedNegation fields
      make subject (.ofJson value) operator negated

def ofJson : Json → Except BuildError Condition
  | .object fields => ofFields fields
  | other => .error (.conditionNotMapping other.shape)

def toJson (condition : Condition) : Json :=
  let negation : Fields Json := if condition.negated then [("negate", .bool true)] else []
  .object (("attr", .string condition.subject) :: negation
    ++ [("op", .string condition.operator.name), ("value", condition.reference.toJson)])

end Condition

namespace Rule

mutual

/-- The rule that a tree describes inside a set: an object whose only key is a logic is a nested set,
anything else a condition. -/
def ofJson : Json → Except BuildError Rule
  | .object [(key, operands)] =>
    match Logic.ofName? key with
    | some logic => (operandsOfJson logic operands).map (.node logic)
    | none => (Condition.ofFields [(key, operands)]).map .leaf
  | other => (Condition.ofJson other).map .leaf

def operandsOfJson (logic : Logic) : Json → Except BuildError (List Rule)
  | .array items => ofItems items
  | other => .error (.operandsNotList logic other.shape)

def ofItems : List Json → Except BuildError (List Rule)
  | [] => .ok []
  | item :: rest =>
    match ofJson item with
    | .error error => .error error
    | .ok rule =>
      match ofItems rest with
      | .error error => .error error
      | .ok rules => .ok (rule :: rules)

end

mutual

def toJson : Rule → Json
  | .leaf condition => condition.toJson
  | .node logic children => .object [(logic.name, .array (toItems children))]

def toItems : List Rule → List Json
  | [] => []
  | rule :: rest => toJson rule :: toItems rest

end

end Rule

namespace RuleSet

def ofJson : Json → Except BuildError RuleSet
  | .object [(key, operands)] =>
    match Logic.ofName? key with
    | some logic => (Rule.operandsOfJson logic operands).map fun children => ⟨logic, children⟩
    | none => .error (.unknownLogic key)
  | .object fields => .error (.rulesNotSingle fields.length)
  | other => .error (.rulesNotMapping other.shape)

def validate (description : Json) : Except BuildError Unit := (ofJson description).map fun _ => ()

def toJson (rules : RuleSet) : Json := rules.toRule.toJson

end RuleSet

end Criteria
