import Criteria.Proofs.RuleSet.Building
import Criteria.Proofs.RuleSet.Congruence

/-!
Building again from the description of a set. The description leaves out nothing but the references that
have no JSON form, so the set comes back exactly if all floats of its references are finite. An infinity
is lost like a NaN: its place is taken by null, which most operators do not even take.
-/
namespace Criteria

namespace Rule

def FiniteReferences (rule : Rule) : Prop :=
  ∀ condition ∈ rule.conditions, ∀ x ∈ condition.reference.floats, x.isFinite = true

@[simp] theorem finiteReferences_leaf (condition : Condition) :
    (leaf condition).FiniteReferences ↔ ∀ x ∈ condition.reference.floats, x.isFinite = true := by
  simp [FiniteReferences]

@[simp] theorem finiteReferences_node (logic : Logic) (children : List Rule) :
    (node logic children).FiniteReferences ↔ ∀ child ∈ children, child.FiniteReferences := by
  simp only [FiniteReferences, conditions_node, List.forall_mem_flatMap]

theorem ofJson_toJson_leaf_iff (condition rebuilt : Condition) :
    ofJson (leaf condition).toJson = .ok (.leaf rebuilt) ↔
      rebuilt.subject = condition.subject ∧ rebuilt.reference = condition.reference.finitePart ∧
        rebuilt.operator = condition.operator ∧ rebuilt.negated = condition.negated := by
  rw [toJson, Condition.toJson_eq_object, ofJson_eq_leaf_iff, ← Condition.ofFields_described_eq_ok_iff,
    Condition.ofFields_eq_ok_iff]
  simp

theorem ofJson_toJson_node_iff (logic other : Logic) (children rebuilt : List Rule) :
    ofJson (node logic children).toJson = .ok (.node other rebuilt) ↔
      other = logic ∧ List.Forall₂ (fun child again => ofJson child.toJson = .ok again) children rebuilt := by
  rw [toJson, toItems_eq_map, ofJson_eq_node_iff]
  constructor
  · rintro ⟨key, items, same, named, each⟩
    simp only [Json.object.injEq, List.cons.injEq, Prod.mk.injEq, Json.array.injEq, and_true] at same
    obtain ⟨rfl, rfl⟩ := same
    rw [Logic.ofName?_name, Option.some.injEq] at named
    exact ⟨named.symm, List.forall₂_map_left_iff.1 each⟩
  · rintro ⟨rfl, each⟩
    exact ⟨_, _, rfl, Logic.ofName?_name other, List.forall₂_map_left_iff.2 each⟩

/-- Without infinities and NaNs a rule is built again as it was. -/
theorem ofJson_toJson {rule : Rule} (finite : rule.FiniteReferences) : ofJson rule.toJson = .ok rule := by
  induction rule with
  | leaf condition =>
    rw [finiteReferences_leaf] at finite
    rw [ofJson_toJson_leaf_iff]
    exact ⟨rfl, (Value.finitePart_eq_self finite).symm, rfl, rfl⟩
  | node logic children ih =>
    rw [finiteReferences_node] at finite
    rw [ofJson_toJson_node_iff]
    refine ⟨rfl, List.forall₂_same.2 ?_⟩
    intro child member
    exact ih child member (finite child member)

theorem equals_self {rule : Rule} (finite : rule.FiniteReferences) : rule.equals rule = true := by
  induction rule with
  | leaf condition =>
    rw [finiteReferences_leaf] at finite
    have reference := (Value.finitePart_equals_iff condition.reference).2 finite
    rw [Value.finitePart_eq_self finite] at reference
    exact (Condition.equals_iff condition condition).2 ⟨rfl, rfl, reference, rfl⟩
  | node logic children ih =>
    rw [finiteReferences_node] at finite
    have each : equalAll children children = true := by
      rw [equalAll_iff, List.forall₂_same]
      intro child member
      exact ih child member (finite child member)
    simp [equals, each]

theorem finiteReferences_of_rebuilt {rule rebuilt : Rule} (built : ofJson rule.toJson = .ok rebuilt)
    (same : rebuilt.equals rule = true) : rule.FiniteReferences := by
  induction rule generalizing rebuilt with
  | leaf condition =>
    cases rebuilt with
    | node logic children => simp [equals] at same
    | leaf again =>
      obtain ⟨-, reference, -, -⟩ := (ofJson_toJson_leaf_iff _ _).1 built
      obtain ⟨-, -, references, -⟩ := (Condition.equals_iff _ _).1 same
      rw [finiteReferences_leaf, ← Value.finitePart_equals_iff, ← reference]
      exact references
  | node logic children ih =>
    cases rebuilt with
    | leaf again => simp [equals] at same
    | node other others =>
      obtain ⟨-, each⟩ := (ofJson_toJson_node_iff _ _ _ _).1 built
      have others_equal : equalAll others children = true := by
        simp only [equals, Bool.and_eq_true] at same
        exact same.2
      rw [equalAll_iff] at others_equal
      rw [finiteReferences_node]
      intro child member
      have both := List.Forall₂.mp (fun _ _ head equal => And.intro head equal) each others_equal.flip
      obtain ⟨again, head, equal⟩ := exists_of_forall₂ both child member
      exact ih child member head equal

end Rule

namespace RuleSet

/-- A set is built from its own description as an equal set exactly if no float of its references is a
NaN or an infinity. -/
theorem rebuilt_equal_iff (rules : RuleSet) :
    (∃ rebuilt, ofJson rules.toJson = .ok rebuilt ∧ (rebuilt == rules) = true) ↔
      ∀ condition ∈ rules.toRule.conditions, ∀ x ∈ condition.reference.floats,
        x.isNaN = false ∧ x ≠ .posInfinity ∧ x ≠ .negInfinity := by
  simp only [← Binary64.isFinite_iff]
  constructor
  · intro again
    obtain ⟨rebuilt, built, same⟩ := again
    exact Rule.finiteReferences_of_rebuilt ((ofJson_eq_ok_iff _ _).1 built) same
  · intro finite
    refine ⟨rules, ?_, Rule.equals_self finite⟩
    exact (ofJson_eq_ok_iff _ _).2 (Rule.ofJson_toJson finite)

def aboveInfinity : RuleSet :=
  .all [.leaf ⟨⟨"x", by decide⟩, .gt, .float .posInfinity, false, .order .greater (.real .posInfinity),
    rfl, rfl, rfl⟩]

/-- Infinity is no NaN, but null takes its place in the description and is nothing to be greater than. -/
theorem not_rebuilt_infinity :
    (∀ condition ∈ aboveInfinity.toRule.conditions, ∀ x ∈ condition.reference.floats, x.isNaN = false) ∧
      ¬ ∃ rebuilt, ofJson aboveInfinity.toJson = .ok rebuilt ∧ (rebuilt == aboveInfinity) = true := by
  have built : ofJson aboveInfinity.toJson = .error (.incompatibleOperator .gt .null) := by rfl
  constructor
  · decide
  · rw [built]
    simp

end RuleSet

end Criteria
