import Criteria.BuildError
import Criteria.Pattern.Basic
import Criteria.Text
import Criteria.Value.Equality

/-!
The test that a condition makes of the value it finds: an operator joined with its reference once, so
that a pattern is read only once and a bound is known to be a number.
-/
namespace Criteria

inductive Expectation where
  | number
  | string
  | container
  | listOrMapping
  | listOrString
deriving DecidableEq, Repr

def Expectation.text : Expectation → String
  | .number => "a number"
  | .string => "a string"
  | .container => "a list, string or mapping"
  | .listOrMapping => "a list or mapping for a non-string reference"
  | .listOrString => "a list or string for a list reference"

inductive Comparison where
  | greater
  | atLeast
  | less
  | atMost
deriving DecidableEq, Repr

def Comparison.accepts : Comparison → Ordering → Bool
  | .greater, order => order.isGT
  | .atLeast, order => order.isGE
  | .less, order => order.isLT
  | .atMost, order => order.isLE

inductive Test where
  | equal (reference : Value)
  | order (comparison : Comparison) (bound : Numeral)
  | member (items : List Value)
  | contains (reference : Value)
  | matching (pattern : Pattern)

namespace Test

def ofComparison (operator : Operator) (comparison : Comparison) (reference : Value) :
    Except BuildError Test :=
  match reference.numeral? with
  | some bound => .ok (.order comparison bound)
  | none => .error (.incompatibleOperator operator reference.kind)

def make : Operator → Value → Except BuildError Test
  | .eq, reference => .ok (.equal reference)
  | .gt, reference => ofComparison .gt .greater reference
  | .gte, reference => ofComparison .gte .atLeast reference
  | .lt, reference => ofComparison .lt .less reference
  | .lte, reference => ofComparison .lte .atMost reference
  | .isIn, .list items => .ok (.member items)
  | .isIn, reference => .error (.incompatibleOperator .isIn reference.kind)
  | .contains, reference => .ok (.contains reference)
  | .regex, .string source =>
    match Pattern.ofText? source with
    | some pattern => .ok (.matching pattern)
    | none => .error (.invalidPattern source)
  | .regex, reference => .error (.incompatibleOperator .regex reference.kind)

/-- Whether what was found contains the reference: a list by its elements, a string by its parts, a
mapping by its names. -/
def containsAnswer (reference : Value) : (found : Value) → Except Expectation Bool
  | .list items => .ok (items.any fun item => item.equals reference)
  | .string text =>
    match reference with
    | .string part => .ok (Text.occurs part.toList text.toList)
    | _ => .error .listOrMapping
  | .map fields =>
    match reference with
    | .string name => .ok (Fields.has name fields)
    | .list _ => .error .listOrString
    | _ => .ok false
  | _ => .error .container

/-- The answer of a test, or what it would have had to find. Nothing stands in an order to a NaN. -/
def answer : Test → (found : Value) → Except Expectation Bool
  | .equal reference, found => .ok (found.equals reference)
  | .order comparison bound, found =>
    match found.numeral? with
    | some number => .ok ((number.compare? bound).any comparison.accepts)
    | none => .error .number
  | .member items, found => .ok (items.any fun item => item.equals found)
  | .contains reference, found => containsAnswer reference found
  | .matching pattern, .string text => .ok (pattern.occursIn text)
  | .matching _, _ => .error .string

end Test

end Criteria
