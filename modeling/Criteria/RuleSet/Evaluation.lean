import Criteria.Condition.Basic
import Criteria.RuleSet.Basic

/-!
Evaluating rules on a document, from left to right and no further than needed: "and" stops at the first
rule that does not hold, "or" at the first that does, and both stop at the first failure.
-/
namespace Criteria

/-- What an evaluation did: the conditions that gave an answer, in order, each with its answer, and how
it ended. -/
structure Trail where
  applied : List (Condition × Bool)
  ending : Except Mismatch Bool

def Trail.after (before : List (Condition × Bool)) (trail : Trail) : Trail :=
  ⟨before ++ trail.applied, trail.ending⟩

namespace Rule

mutual

def trail (document : Value) : Rule → Trail
  | .leaf condition =>
    match condition.evaluate document with
    | .ok answer => ⟨[(condition, answer)], .ok answer⟩
    | .error mismatch => ⟨[], .error mismatch⟩
  | .node logic children => trailAll document logic children

/-- The evaluation of rules combined by a logic: the next rule is asked only if the one before gave the
neutral answer. -/
def trailAll (document : Value) (logic : Logic) : List Rule → Trail
  | [] => ⟨[], .ok logic.neutral⟩
  | rule :: rest =>
    let first := trail document rule
    match first.ending with
    | .error _ => first
    | .ok answer =>
      if answer = logic.neutral then Trail.after first.applied (trailAll document logic rest)
      else first

end

def evaluate (rule : Rule) (document : Value) : Except Mismatch Bool := (rule.trail document).ending

theorem evaluate_leaf (condition : Condition) (document : Value) :
    (leaf condition).evaluate document = condition.evaluate document := by
  rw [evaluate, trail]
  cases condition.evaluate document <;> rfl

theorem evaluate_node_nil (logic : Logic) (document : Value) :
    (node logic []).evaluate document = .ok logic.neutral := by
  rw [evaluate, trail, trailAll]

theorem evaluate_node_cons (logic : Logic) (rule : Rule) (rest : List Rule) (document : Value) :
    (node logic (rule :: rest)).evaluate document =
      match rule.evaluate document with
      | .error mismatch => .error mismatch
      | .ok answer => if answer = logic.neutral then (node logic rest).evaluate document else .ok answer := by
  simp only [evaluate, trail, trailAll]
  cases ending : (rule.trail document).ending with
  | error mismatch => exact ending
  | ok answer =>
    by_cases neutral : answer = logic.neutral
    · simp [neutral, Trail.after]
    · simpa [neutral] using ending

end Rule

namespace RuleSet

def trail (rules : RuleSet) (document : Value) : Trail := rules.toRule.trail document

def evaluate (rules : RuleSet) (document : Value) : Except Mismatch Bool := (rules.trail document).ending

end RuleSet

end Criteria
