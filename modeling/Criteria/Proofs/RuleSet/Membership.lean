import Criteria.Proofs.Condition.Elements
import Criteria.Proofs.RuleSet.Duality
import Criteria.Proofs.RuleSet.Equality
import Criteria.Proofs.RuleSet.Grammar
import Criteria.Proofs.RuleSet.Verdict

/-!
Membership is a disjunction of equalities. A set whose conditions all answer gives their answers combined by its
logic, however many of them it asks. Membership compares each listed value with what is found, and equality what is
found with the listed value; equality of values being symmetric, both come to the same, and so do their negations.
-/
namespace Criteria

theorem Logic.combine_cons (logic : Logic) (answer : Bool) (rest : List Bool) :
    logic.combine (answer :: rest) = if answer = logic.neutral then logic.combine rest else answer := by
  cases logic <;> cases answer <;> simp [combine, neutral]

namespace Rule

/-- A set of conditions that all answer gives their answers combined, also if it does not ask them all. -/
theorem evaluate_node_leaves {document : Value} (logic : Logic) {conditions : List Condition} {answers : List Bool}
    (each : List.Forall₂ (fun condition answer => condition.evaluate document = .ok answer) conditions answers) :
    (node logic (conditions.map leaf)).evaluate document = .ok (logic.combine answers) := by
  induction each with
  | nil =>
    rw [List.map_nil, evaluate_node_nil]
    cases logic <;> rfl
  | @cons condition answer rest answers own others ih =>
    rw [List.map_cons, evaluate_node_cons, evaluate_leaf, own, ih, Logic.combine_cons]
    exact (apply_ite Except.ok _ _ _).symm

theorem dualAll_leaves (conditions : List Condition) :
    dualAll (conditions.map leaf) = conditions.map fun condition => leaf condition.negate := by
  induction conditions with
  | nil => rfl
  | cons condition rest ih => rw [List.map_cons, dualAll, ih, dual, List.map_cons]

end Rule

namespace RuleSet

theorem evaluate_all_negated (conditions : List Condition) (document : Value) :
    (all (conditions.map fun condition => Rule.leaf condition.negate)).evaluate document =
      ((any (conditions.map Rule.leaf)).evaluate document).map Bool.not := by
  rw [← Rule.dualAll_leaves]
  exact congrArg Trail.ending (trail_dual (any (conditions.map Rule.leaf)) document)

/-- Whether what is found is among listed scalars is whether it equals one of them, and whether it is not among
them is whether it equals none. Both ways of asking always answer. -/
theorem membership_eq_disjunction (path : Path) {items : List Value}
    (scalars : ∀ item ∈ items, item.isScalar = true) :
    ∃ (member : Condition) (each : List Condition), (attr path.text).isIn items = .ok member ∧
      List.Forall₂ (fun item condition => (attr path.text).eq item = .ok condition) items each ∧
      ∀ document, ∃ answer,
        member.evaluate document = .ok answer ∧
        (any (each.map Rule.leaf)).evaluate document = .ok answer ∧
        member.negate.evaluate document = .ok (!answer) ∧
        (all (each.map fun condition => Rule.leaf condition.negate)).evaluate document = .ok (!answer) := by
  obtain ⟨member, made, listed⟩ := Condition.exists_make_isIn path scalars
  have equalities : ∀ item ∈ items, ∃ condition : Condition, (attr path.text).eq item = .ok condition ∧
      ∀ document, condition.evaluate document = .ok ((path.resolve document).equals item) := by
    intro item within
    exact Condition.exists_make_eq path ((Value.unsupportedPart?_eq_none_iff item).2 (.inl (scalars item within)))
  obtain ⟨each, related⟩ := forall₂_of_exists equalities
  refine ⟨member, each, made, related.imp (fun _ _ equality => equality.1), ?_⟩
  intro document
  have answers : List.Forall₂ (fun condition answer => condition.evaluate document = .ok answer) each
      (items.map (path.resolve document).equals) := by
    rw [List.forall₂_map_right_iff]
    exact (related.imp (fun _ _ equality => equality.2 document)).flip
  have turned : (fun item => item.equals (path.resolve document)) = (path.resolve document).equals := by
    funext item
    exact Value.equals_comm item _
  have one : member.evaluate document = .ok (items.any (path.resolve document).equals) := by
    rw [listed document, turned]
  have disjunction :
      (any (each.map Rule.leaf)).evaluate document = .ok (items.any (path.resolve document).equals) := by
    have combined := Rule.evaluate_node_leaves .or answers
    rwa [Logic.combine, List.any_map] at combined
  refine ⟨_, one, disjunction, ?_, ?_⟩
  · rw [Condition.evaluate_negate, one]
    rfl
  · rw [evaluate_all_negated, disjunction]
    rfl

def mixed : List Value := [.int 1, .bool true, .float (.ofInt 1), .int 1, .float .nan, .null]

theorem membership_eq_disjunction_mixed :
    (∀ item ∈ mixed, item.isScalar = true) ∧
      ∃ (member : Condition) (each : List Condition), (attr "peer.tag").isIn mixed = .ok member ∧
        List.Forall₂ (fun item condition => (attr "peer.tag").eq item = .ok condition) mixed each ∧
        member.evaluate (.map []) = .ok true ∧
        (any (each.map Rule.leaf)).evaluate (.map []) = .ok true ∧
        member.negate.evaluate (.map []) = .ok false ∧
        (all (each.map fun condition => Rule.leaf condition.negate)).evaluate (.map []) = .ok false := by
  have scalars : ∀ item ∈ mixed, item.isScalar = true := by decide
  obtain ⟨member, each, made, equalities, answers⟩ := membership_eq_disjunction ⟨"peer.tag", by decide⟩ scalars
  have computed : ((attr "peer.tag").isIn mixed).map (·.evaluate (.map [])) = .ok (.ok true) := by rfl
  rw [made] at computed
  obtain ⟨answer, one, disjunction, negated, conjunction⟩ := answers (.map [])
  obtain rfl : answer = true := Except.ok.inj (one.symm.trans (Except.ok.inj computed))
  exact ⟨scalars, member, each, made, equalities, one, disjunction, negated, conjunction⟩

end RuleSet

end Criteria
