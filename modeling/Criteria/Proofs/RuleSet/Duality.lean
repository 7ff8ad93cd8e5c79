import Criteria.Proofs.RuleSet.Positions
import Criteria.RuleSet.Report

/-!
Duality. Exchanging "and" with "or" in every set and negating every condition turns every answer around. It
changes neither which conditions are asked nor in which order, and a failure stays the failure it was.
-/
namespace Criteria

namespace Logic

def dual : Logic → Logic
  | .and => .or
  | .or => .and

theorem neutral_dual (logic : Logic) : logic.dual.neutral = !logic.neutral := by
  cases logic <;> rfl

end Logic

namespace Rule

mutual

/-- The rule with its logics exchanged and its conditions negated. -/
def dual : Rule → Rule
  | .leaf condition => .leaf condition.negate
  | .node logic children => .node logic.dual (dualAll children)

def dualAll : List Rule → List Rule
  | [] => []
  | rule :: rest => dual rule :: dualAll rest

end

end Rule

namespace RuleSet

def dual (rules : RuleSet) : RuleSet := ⟨rules.logic.dual, Rule.dualAll rules.children⟩

theorem toRule_dual (rules : RuleSet) : rules.dual.toRule = rules.toRule.dual := by
  rw [toRule, toRule, Rule.dual, dual]

end RuleSet

def Outcome.turned (outcome : Outcome) : Outcome :=
  { outcome with negated := !outcome.negated, result := !outcome.result }

def Report.turned (report : Report) : Report := ⟨!report.matched, report.outcomes.map Outcome.turned⟩

def Trail.turned (trail : Trail) : Trail :=
  ⟨trail.applied.map fun entry => (entry.1.negate, !entry.2), trail.ending.map Bool.not⟩

theorem Trail.turned_after (before : List (Condition × Bool)) (trail : Trail) :
    (Trail.after before trail).turned =
      Trail.after (before.map fun entry => (entry.1.negate, !entry.2)) trail.turned := by
  simp [Trail.turned, Trail.after]

theorem Condition.evaluate_negate (condition : Condition) (document : Value) :
    condition.negate.evaluate document = (condition.evaluate document).map Bool.not := by
  simp only [evaluate, negate, subject]
  cases condition.test.answer (condition.path.resolve document) with
  | error expected => rfl
  | ok answer => simp [Except.map]

namespace Rule

variable {document : Value}

theorem trailAll_dual (logic : Logic) (children : List Rule)
    (each : ∀ child ∈ children, child.dual.trail document = (child.trail document).turned) :
    trailAll document logic.dual (dualAll children) = (trailAll document logic children).turned := by
  induction children with
  | nil => simp [dualAll, trailAll, Trail.turned, Logic.neutral_dual, Except.map]
  | cons rule rest ih =>
    have tail := ih (fun child member => each child (List.mem_cons_of_mem _ member))
    rw [dualAll, trailAll, trailAll, each rule List.mem_cons_self, tail]
    cases ending : (rule.trail document).ending with
    | error mismatch => simp [Trail.turned, ending, Except.map]
    | ok answer =>
      by_cases neutral : answer = logic.neutral
      · simp only [neutral, if_true, Trail.turned_after]
        simp [Trail.turned, ending, neutral, Except.map, Logic.neutral_dual]
      · have turned : (!answer) ≠ logic.dual.neutral := by
          rw [Logic.neutral_dual]
          exact fun same => neutral (Bool.not_inj same)
        simp [Trail.turned, ending, neutral, Except.map, turned]

/-- Evaluating the dual asks the same conditions, negated, and ends the other way round. -/
theorem trail_dual (rule : Rule) : rule.dual.trail document = (rule.trail document).turned := by
  induction rule with
  | leaf condition =>
    rw [dual, trail, trail, Condition.evaluate_negate]
    cases condition.evaluate document <;> rfl
  | node logic children ih =>
    rw [dual, trail, trail]
    exact trailAll_dual logic children ih

end Rule

namespace RuleSet

theorem trail_dual (rules : RuleSet) (document : Value) :
    rules.dual.trail document = (rules.trail document).turned := by
  rw [trail, trail, toRule_dual]
  exact Rule.trail_dual rules.toRule

/-- The dual answers the opposite, fails alike, and reports the same conditions in the same order, negated and
with the opposite results. -/
theorem evaluation_dual (rules : RuleSet) (document : Value) :
    (∀ answer, rules.dual.evaluate document = .ok (!answer) ↔ rules.evaluate document = .ok answer) ∧
    (∀ mismatch, rules.dual.evaluate document = .error mismatch ↔ rules.evaluate document = .error mismatch) ∧
    rules.dual.report document = (rules.report document).map Report.turned := by
  have endings : rules.dual.evaluate document = (rules.evaluate document).map Bool.not := by
    rw [evaluate, trail_dual]
    rfl
  refine ⟨?_, ?_, ?_⟩
  · intro answer
    rw [endings]
    cases rules.evaluate document <;> simp [Except.map]
  · intro mismatch
    rw [endings]
    cases rules.evaluate document <;> simp [Except.map]
  · cases ended : rules.evaluate document with
    | error mismatch =>
      rw [report_of_error ended, report_of_error (by rw [endings, ended]; rfl)]
      rfl
    | ok answer =>
      have turned : rules.dual.evaluate document = .ok (!answer) := by
        rw [endings, ended]
        rfl
      rw [report_of_ok ended, report_of_ok turned, trail_dual]
      simp [Trail.turned, Report.turned, Except.map, Outcome.turned, Outcome.ofAnswer, Condition.negate,
        Condition.subject]

end RuleSet

end Criteria
