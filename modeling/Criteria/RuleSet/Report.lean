import Criteria.RuleSet.Evaluation

/-!
The report of an evaluation: its answer, and what every condition that was asked answered.
-/
namespace Criteria

structure Outcome where
  subject : String
  operator : Operator
  negated : Bool
  result : Bool
deriving DecidableEq, Repr

/-- A detailed answer. Conditions that were not asked do not appear. -/
structure Report where
  matched : Bool
  outcomes : List Outcome
deriving DecidableEq, Repr

namespace Outcome

def ofAnswer (answered : Condition × Bool) : Outcome :=
  ⟨answered.1.subject, answered.1.operator, answered.1.negated, answered.2⟩

def text (outcome : Outcome) : String :=
  (if outcome.negated then "NOT " else "") ++ outcome.subject ++ " " ++ outcome.operator.name ++ " = "
    ++ Text.truth outcome.result

end Outcome

namespace Report

def passed (report : Report) : List String :=
  (report.outcomes.filter (·.result)).map (·.subject)

def text (report : Report) : String :=
  "matched: " ++ Text.truth report.matched ++ ", evaluated: ["
    ++ Text.commaSeparated (report.outcomes.map (·.text)) ++ "]"

end Report

def RuleSet.report (rules : RuleSet) (document : Value) : Except Mismatch Report :=
  let trail := rules.trail document
  match trail.ending with
  | .ok matched => .ok ⟨matched, trail.applied.map Outcome.ofAnswer⟩
  | .error mismatch => .error mismatch

theorem RuleSet.report_of_error {rules : RuleSet} {document : Value} {mismatch : Mismatch}
    (failed : rules.evaluate document = .error mismatch) : rules.report document = .error mismatch := by
  have ending : (rules.trail document).ending = .error mismatch := failed
  simp only [report, ending]

theorem RuleSet.report_of_ok {rules : RuleSet} {document : Value} {answer : Bool}
    (ended : rules.evaluate document = .ok answer) :
    rules.report document = .ok ⟨answer, (rules.trail document).applied.map Outcome.ofAnswer⟩ := by
  have ending : (rules.trail document).ending = .ok answer := ended
  simp only [report, ending]

end Criteria
