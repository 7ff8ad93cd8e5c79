import Criteria.RuleSet.Evaluation

/-!
Composing trails. The trail of a set is composed from the trails of its rules, one behind the other. Under one
logic this composition is associative and has the trail of the empty set as its unit, and behind a trail that
does not end in the neutral answer nothing counts.
-/
namespace Criteria

namespace Trail

variable {logic : Logic} {first : Trail}

def followedBy (logic : Logic) (first rest : Trail) : Trail :=
  match first.ending with
  | .error _ => first
  | .ok answer => if answer = logic.neutral then after first.applied rest else first

def empty (logic : Logic) : Trail := ⟨[], .ok logic.neutral⟩

theorem followedBy_of_neutral (goesOn : first.ending = .ok logic.neutral) (rest : Trail) :
    followedBy logic first rest = after first.applied rest := by
  simp only [followedBy, goesOn, if_true]

theorem followedBy_of_not_neutral (stops : first.ending ≠ .ok logic.neutral) (rest : Trail) :
    followedBy logic first rest = first := by
  unfold followedBy
  cases ending : first.ending with
  | error mismatch => rfl
  | ok answer =>
    have other : answer ≠ logic.neutral := fun same => stops (by rw [ending, same])
    exact if_neg other

theorem empty_followedBy (rest : Trail) : followedBy logic (empty logic) rest = rest :=
  followedBy_of_neutral rfl rest

theorem followedBy_empty (first : Trail) : followedBy logic first (empty logic) = first := by
  by_cases goesOn : first.ending = .ok logic.neutral
  · rw [followedBy_of_neutral goesOn, after, empty, List.append_nil, ← goesOn]
  · exact followedBy_of_not_neutral goesOn _

theorem followedBy_assoc (first second third : Trail) :
    followedBy logic (followedBy logic first second) third =
      followedBy logic first (followedBy logic second third) := by
  by_cases goesOn : first.ending = .ok logic.neutral
  · rw [followedBy_of_neutral goesOn, followedBy_of_neutral goesOn]
    -- Behind the first trail the second one decides whether the third is reached.
    by_cases again : second.ending = .ok logic.neutral
    · have both : (after first.applied second).ending = .ok logic.neutral := again
      rw [followedBy_of_neutral both, followedBy_of_neutral again]
      simp only [after, List.append_assoc]
    · have neither : (after first.applied second).ending ≠ .ok logic.neutral := again
      rw [followedBy_of_not_neutral neither, followedBy_of_not_neutral again]
  · rw [followedBy_of_not_neutral goesOn, followedBy_of_not_neutral goesOn, followedBy_of_not_neutral goesOn]

end Trail

namespace Rule

variable {document : Value} {logic : Logic}

theorem trail_node (children : List Rule) :
    (node logic children).trail document = trailAll document logic children := by
  rw [trail]

theorem trailAll_nil : trailAll document logic [] = Trail.empty logic := by
  rw [trailAll, Trail.empty]

theorem trailAll_cons (rule : Rule) (rest : List Rule) :
    trailAll document logic (rule :: rest) =
      Trail.followedBy logic (rule.trail document) (trailAll document logic rest) := by
  rw [trailAll]
  rfl

theorem trailAll_append (children others : List Rule) :
    trailAll document logic (children ++ others) =
      Trail.followedBy logic (trailAll document logic children) (trailAll document logic others) := by
  induction children with
  | nil => rw [List.nil_append, trailAll_nil, Trail.empty_followedBy]
  | cons rule rest ih => rw [List.cons_append, trailAll_cons, trailAll_cons, ih, Trail.followedBy_assoc]

end Rule

end Criteria
