import Criteria.Condition.Test
import Criteria.Path
import Criteria.Value.Basic
import Criteria.Value.Text

/-!
Conditions: a path, an operator and a reference, possibly negated. A condition exists only if its
operator takes its reference, which is checked when it is made. On a document it answers or fails.
-/
namespace Criteria

/-- The kind of the part that makes a value unfit to be a reference: a mapping, or the first element of
a list that is no scalar. -/
def Value.unsupportedPart? : Value → Option Kind
  | .map _ => some .mapping
  | .list items => (items.find? fun item => !item.isScalar).map (·.kind)
  | _ => none

structure Mismatch where
  subject : String
  operator : Operator
  expected : Expectation
  found : Kind
deriving DecidableEq, Repr

def Mismatch.message (mismatch : Mismatch) : String :=
  "'" ++ mismatch.operator.name ++ "' on attribute '" ++ mismatch.subject ++ "' expects "
    ++ mismatch.expected.text ++ ", found " ++ mismatch.found.name

structure Condition where
  path : Path
  operator : Operator
  reference : Value
  negated : Bool
  test : Test
  supported : reference.unsupportedPart? = none
  accepted : operator.accepts reference.kind = true
  made : Test.make operator reference = .ok test

namespace Condition

/-- The condition of an attribute, a reference and an operator. The reference is checked first, then
whether the operator takes it, then the path, and a pattern last. -/
def make (subject : String) (reference : Value) (operator : Operator) (negated : Bool) :
    Except BuildError Condition :=
  match supported : reference.unsupportedPart? with
  | some kind => .error (.unsupportedValue kind)
  | none =>
    if accepted : operator.accepts reference.kind = true then
      match Path.ofText? subject with
      | none => .error .emptyAttribute
      | some path =>
        match made : Test.make operator reference with
        | .error error => .error error
        | .ok test => .ok ⟨path, operator, reference, negated, test, supported, accepted, made⟩
    else .error (.incompatibleOperator operator reference.kind)

def subject (condition : Condition) : String := condition.path.text

def negate (condition : Condition) : Condition := { condition with negated := !condition.negated }

def equals (left right : Condition) : Bool :=
  left.subject == right.subject && left.operator == right.operator
    && left.reference.equals right.reference && left.negated == right.negated

instance : BEq Condition := ⟨equals⟩

def text (condition : Condition) : String :=
  (if condition.negated then "(NOT " else "(") ++ condition.subject ++ " " ++ condition.operator.name
    ++ " " ++ condition.reference.text ++ ")"

/-- The answer of a condition. A negation turns an answer around and leaves a failure as it is. -/
def evaluate (condition : Condition) (document : Value) : Except Mismatch Bool :=
  let found := condition.path.resolve document
  match condition.test.answer found with
  | .ok answer => .ok (answer != condition.negated)
  | .error expected => .error ⟨condition.subject, condition.operator, expected, found.kind⟩

end Condition

structure Attribute where
  text : String

def attr (text : String) : Attribute := ⟨text⟩

namespace Attribute

variable {α : Type} [ToValue α]

def compare (subject : Attribute) (operator : Operator) (reference : α) : Except BuildError Condition :=
  Condition.make subject.text (toValue reference) operator false

def eq (subject : Attribute) (reference : α) : Except BuildError Condition :=
  subject.compare .eq reference

def gt (subject : Attribute) (bound : α) : Except BuildError Condition := subject.compare .gt bound

def gte (subject : Attribute) (bound : α) : Except BuildError Condition := subject.compare .gte bound

def lt (subject : Attribute) (bound : α) : Except BuildError Condition := subject.compare .lt bound

def lte (subject : Attribute) (bound : α) : Except BuildError Condition := subject.compare .lte bound

def isIn (subject : Attribute) (items : α) : Except BuildError Condition :=
  subject.compare .isIn items

def contains (subject : Attribute) (reference : α) : Except BuildError Condition :=
  subject.compare .contains reference

def regex (subject : Attribute) (pattern : String) : Except BuildError Condition :=
  subject.compare .regex pattern

end Attribute

end Criteria
