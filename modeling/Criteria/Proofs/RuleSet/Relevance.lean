import Criteria.Proofs.RuleSet.Composition
import Criteria.Proofs.RuleSet.Frame
import Criteria.Proofs.RuleSet.Reached

/-!
Only what was reached matters. If two documents show the same at the attributes of the conditions that are
reached on the first one, then the evaluation on the second takes the same way through the set: it asks the
same conditions, gets the same answers and ends alike. At the attributes of the other conditions the
documents may show anything, even what such a condition would fail on.
-/
namespace Criteria

namespace Rule

variable {document other : Value} {logic : Logic}

/-- One set: if every rule is evaluated alike once its reached conditions are, so are the rules of the set
together. Nothing is known of the rules behind one that ends the evaluation, and nothing is needed. -/
theorem trailAll_of_reached_eq (rest : List Rule) (before : List Rule)
    (each : ∀ rule ∈ rest,
      (∀ leaf ∈ reachedLeaves document rule, leaf.2.evaluate document = leaf.2.evaluate other) →
        rule.trail document = rule.trail other)
    (passed : ∀ earlier ∈ before, earlier.evaluate document = .ok logic.neutral)
    (same : ∀ leaf ∈ reachedFrom document (.node logic (before ++ rest)) before.length rest,
      leaf.2.evaluate document = leaf.2.evaluate other) :
    trailAll document logic rest = trailAll other logic rest := by
  induction rest generalizing before with
  | nil => rfl
  | cons rule rest ih =>
    rw [reachedFrom_cons rule rest passed] at same
    have inside : ∀ leaf ∈ reachedLeaves document rule, leaf.2.evaluate document = leaf.2.evaluate other := by
      intro leaf member
      exact same (under before.length leaf) (List.mem_append_left _ (List.mem_map_of_mem member))
    have first := each rule List.mem_cons_self inside
    rw [trailAll_cons, trailAll_cons, ← first]
    by_cases goesOn : rule.evaluate document = .ok logic.neutral
    · have others := fun next member => each next (List.mem_cons_of_mem rule member)
      have stillPassed : ∀ earlier ∈ before ++ [rule], earlier.evaluate document = .ok logic.neutral :=
        List.forall_mem_append.2 ⟨passed, List.forall_mem_singleton.2 goesOn⟩
      have later : trailAll document logic rest = trailAll other logic rest := by
        apply ih (before ++ [rule]) others stillPassed
        intro leaf member
        apply same leaf
        apply List.mem_append_right
        simpa using member
      rw [later]
    · rw [Trail.followedBy_of_not_neutral goesOn, Trail.followedBy_of_not_neutral goesOn]

theorem trail_of_reached_eq {rule : Rule}
    (same : ∀ leaf ∈ reachedLeaves document rule, leaf.2.evaluate document = leaf.2.evaluate other) :
    rule.trail document = rule.trail other := by
  induction rule with
  | leaf condition =>
    apply trail_of_evaluate_eq
    simpa using same
  | node logic children ih =>
    rw [reachedLeaves_node] at same
    rw [trail_node, trail_node]
    exact trailAll_of_reached_eq children [] ih (by simp) same

end Rule

namespace RuleSet

/-- The documents show the same wherever an evaluation on the first one looks: at the attribute of every
reached condition, and be it the one that fails. -/
def LookAlike (rules : RuleSet) (document other : Value) : Prop :=
  ∀ position condition, rules.toRule.at? position = some (.leaf condition) →
    Rule.Reached document rules.toRule position →
      condition.path.resolve other = condition.path.resolve document

/-- An evaluation depends on what it looks at and on nothing else. -/
theorem evaluation_of_lookAlike {rules : RuleSet} {document other : Value}
    (alike : rules.LookAlike document other) :
    rules.evaluate other = rules.evaluate document ∧ rules.report other = rules.report document := by
  have trails : rules.trail document = rules.trail other := by
    apply Rule.trail_of_reached_eq
    intro leaf member
    obtain ⟨stands, reached⟩ := (Rule.mem_reachedLeaves_iff rules.toRule leaf.1 leaf.2).1 member
    exact Condition.evaluate_of_resolve_eq (alike leaf.1 leaf.2 stands reached).symm
  constructor
  · rw [evaluate, evaluate, trails]
  · rw [report, report, trails]

def coreSite : Condition :=
  ⟨⟨"site", by decide⟩, .eq, .string "core", false, .equal (.string "core"), rfl, rfl, rfl⟩

def lowLoad : Condition :=
  ⟨⟨"load", by decide⟩, .lt, .int 9, false, .order .less (.whole 9), rfl, rfl, rfl⟩

def ranked : Condition :=
  ⟨⟨"rank", by decide⟩, .gt, .int 0, false, .order .greater (.whole 0), rfl, rfl, rfl⟩

def siteRules : RuleSet := .any [.node .and [.leaf coreSite, .leaf lowLoad], .leaf ranked]

theorem evaluation_of_lookAlike_sites :
    siteRules.LookAlike (.map [("load", .int 1), ("site", .string "edge")])
        (.map [("load", .string "none"), ("site", .string "edge")]) ∧
      lowLoad.evaluate (.map [("load", .string "none"), ("site", .string "edge")]) =
        .error ⟨"load", .lt, .number, .string⟩ ∧
      siteRules.evaluate (.map [("load", .string "none"), ("site", .string "edge")]) =
        .error ⟨"rank", .gt, .number, .null⟩ := by
  have site : coreSite.evaluate (.map [("load", .int 1), ("site", .string "edge")]) = .ok false := by rfl
  have alike : siteRules.LookAlike (.map [("load", .int 1), ("site", .string "edge")])
      (.map [("load", .string "none"), ("site", .string "edge")]) := by
    have leaves : siteRules.toRule.leaves = [([0, 0], coreSite), ([0, 1], lowLoad), ([1], ranked)] := by rfl
    intro position condition stands reached
    rw [← Rule.mem_leaves_iff, leaves] at stands
    simp only [List.mem_cons, Prod.mk.injEq, List.not_mem_nil, or_false] at stands
    rcases stands with ⟨rfl, rfl⟩ | ⟨rfl, rfl⟩ | ⟨rfl, rfl⟩
    · rfl
    · have passed :=
        reached [0] 1 [] rfl .and [.leaf coreSite, .leaf lowLoad] rfl (.leaf coreSite) List.mem_cons_self
      rw [Rule.evaluate_leaf, site] at passed
      cases passed
    · rfl
  have failed : siteRules.evaluate (.map [("load", .int 1), ("site", .string "edge")]) =
      .error ⟨"rank", .gt, .number, .null⟩ := by rfl
  obtain ⟨same, -⟩ := evaluation_of_lookAlike alike
  exact ⟨alike, by rfl, same.trans failed⟩

end RuleSet

end Criteria
