import Criteria.Proofs.RuleSet.Congruence
import Criteria.Proofs.Value.Denotation
import Criteria.Proofs.Value.Interchange

/-!
Equality of values and of sets as a partial equivalence. It is symmetric and transitive, across the kinds of numbers
and at every depth, because it compares what numbers denote and goes part by part through everything else. Only a
NaN, which denotes nothing, keeps what holds it from being equal to itself.
-/
namespace Criteria

namespace Value

def FreeOfNaN (value : Value) : Prop := ∀ x ∈ value.floats, x.isNaN = false

@[simp] theorem freeOfNaN_list (items : List Value) :
    (list items).FreeOfNaN ↔ ∀ item ∈ items, item.FreeOfNaN := by
  simp only [FreeOfNaN, floats_list, List.forall_mem_flatMap]

@[simp] theorem freeOfNaN_map (fields : Fields Value) :
    (map fields).FreeOfNaN ↔ ∀ field ∈ fields, field.2.FreeOfNaN := by
  simp only [FreeOfNaN, floats_map, List.forall_mem_flatMap]

theorem equals_self_of_numeral? {value : Value} {number : Numeral} (numeric : value.numeral? = some number) :
    value.equals value = true ↔ value.isNaN = false := by
  have denotes : value.extent? = number.extent? := by rw [extent?, numeric, Option.bind_some]
  have nothing := extent?_eq_none_iff numeric
  rw [← denotes] at nothing
  cases point : value.extent? with
  | some point' =>
    have number' : value.isNaN = false := by
      rw [point] at nothing
      simpa using nothing
    exact iff_of_true (equals_of_extent point point) number'
  | none =>
    have unequal : ¬ value.equals value = true := by
      intro same
      cases matching_of_equals same with
      | null => cases numeric
      | string text => cases numeric
      | list each => cases numeric
      | map each => cases numeric
      | number other left right =>
        rw [point] at left
        cases left
    rw [nothing.1 point]
    exact iff_of_false unequal (by simp)

theorem equals_self_iff (value : Value) : value.equals value = true ↔ value.FreeOfNaN := by
  induction value with
  | scalar value isScalar =>
    cases value with
    | null => simp [equals, FreeOfNaN, floats]
    | bool b => simp [equals, FreeOfNaN, floats]
    | string s => simp [equals, FreeOfNaN, floats]
    | int n => exact (equals_self_of_numeral? rfl).trans (by simp [isNaN, FreeOfNaN, floats])
    | float x => exact (equals_self_of_numeral? rfl).trans (by simp [isNaN, FreeOfNaN, floats])
    | list items => cases isScalar
    | map fields => cases isScalar
  | list items ih =>
    rw [equals, equalItems_iff, EqualItems, List.forall₂_same, freeOfNaN_list]
    exact forall₂_congr ih
  | map fields ih =>
    rw [equals, equalFields_iff, EqualFields, List.forall₂_same, freeOfNaN_map]
    simp only [true_and]
    exact forall₂_congr ih

theorem equals_comm (left right : Value) : left.equals right = right.equals left :=
  Bool.eq_iff_iff.2 ⟨equals_symm, equals_symm⟩

end Value

namespace Condition

theorem equals_symm {left right : Condition} (same : left.equals right = true) : right.equals left = true := by
  obtain ⟨subjects, operators, references, negations⟩ := (equals_iff left right).1 same
  exact (equals_iff right left).2 ⟨subjects.symm, operators.symm, Value.equals_symm references, negations.symm⟩

theorem equals_trans {left middle right : Condition} (first : left.equals middle = true)
    (second : middle.equals right = true) : left.equals right = true := by
  obtain ⟨subjects, operators, references, negations⟩ := (equals_iff left middle).1 first
  obtain ⟨subjects', operators', references', negations'⟩ := (equals_iff middle right).1 second
  exact (equals_iff left right).2 ⟨subjects.trans subjects', operators.trans operators',
    Value.equals_trans references references', negations.trans negations'⟩

theorem equals_self_iff (condition : Condition) :
    condition.equals condition = true ↔ condition.reference.FreeOfNaN := by
  simp [equals_iff, Value.equals_self_iff]

end Condition

namespace Rule

def FreeOfNaN (rule : Rule) : Prop := ∀ condition ∈ rule.conditions, condition.reference.FreeOfNaN

theorem equals_node_iff (leftLogic rightLogic : Logic) (lefts rights : List Rule) :
    (node leftLogic lefts).equals (node rightLogic rights) = true ↔
      leftLogic = rightLogic ∧ List.Forall₂ (fun left right => left.equals right = true) lefts rights := by
  simp [equals, equalAll_iff]

theorem equals_symm {left right : Rule} (same : left.equals right = true) : right.equals left = true := by
  induction left generalizing right with
  | leaf condition =>
    cases right with
    | leaf other => exact Condition.equals_symm same
    | node logic others => cases same
  | node logic children ih =>
    cases right with
    | leaf other => cases same
    | node otherLogic others =>
      obtain ⟨logics, each⟩ := (equals_node_iff _ _ _ _).1 same
      have turned := ((List.forall₂_and_left _ _).2 ⟨ih, each⟩).imp (fun _ _ pair => pair.1 pair.2)
      exact (equals_node_iff _ _ _ _).2 ⟨logics.symm, turned.flip⟩

theorem equals_trans {left middle right : Rule} (first : left.equals middle = true)
    (second : middle.equals right = true) : left.equals right = true := by
  induction left generalizing middle right with
  | leaf condition =>
    cases middle with
    | node logic others => cases first
    | leaf other =>
      cases right with
      | node logic others => cases second
      | leaf last => exact Condition.equals_trans first second
  | node logic children ih =>
    cases middle with
    | leaf other => cases first
    | node otherLogic others =>
      cases right with
      | leaf other => cases second
      | node lastLogic lasts =>
        obtain ⟨logics, each⟩ := (equals_node_iff _ _ _ _).1 first
        obtain ⟨logics', each'⟩ := (equals_node_iff _ _ _ _).1 second
        refine (equals_node_iff _ _ _ _).2 ⟨logics.trans logics', Value.forall₂_compose ?_ each each'⟩
        exact fun child member _ _ one two => ih child member one two

theorem equals_self_iff (rule : Rule) : rule.equals rule = true ↔ rule.FreeOfNaN := by
  induction rule with
  | leaf condition =>
    rw [FreeOfNaN, conditions_leaf, List.forall_mem_singleton]
    exact Condition.equals_self_iff condition
  | node logic children ih =>
    rw [equals_node_iff, List.forall₂_same, FreeOfNaN, conditions_node, List.forall_mem_flatMap]
    simp only [true_and]
    exact forall₂_congr ih

theorem equals_comm (left right : Rule) : left.equals right = right.equals left :=
  Bool.eq_iff_iff.2 ⟨equals_symm, equals_symm⟩

end Rule

namespace RuleSet

/-- Values are equal symmetrically and transitively, and to themselves exactly if they hold no NaN; and so are sets,
by what their references hold. -/
theorem equality_partial_equivalence :
    (∀ left right : Value, (left == right) = (right == left)) ∧
      (∀ left middle right : Value, (left == middle) = true → (middle == right) = true → (left == right) = true) ∧
      (∀ value : Value, (value == value) = true ↔ value.FreeOfNaN) ∧
      (∀ left right : RuleSet, (left == right) = (right == left)) ∧
      (∀ left middle right : RuleSet,
        (left == middle) = true → (middle == right) = true → (left == right) = true) ∧
      ∀ rules : RuleSet, (rules == rules) = true ↔ rules.toRule.FreeOfNaN := by
  refine ⟨Value.equals_comm, ?_, Value.equals_self_iff, ?_, ?_, ?_⟩
  · exact fun left middle right first second => Value.equals_trans first second
  · exact fun left right => Rule.equals_comm left.toRule right.toRule
  · exact fun left middle right first second => Rule.equals_trans first second
  · exact fun rules => Rule.equals_self_iff rules.toRule

end RuleSet

end Criteria
