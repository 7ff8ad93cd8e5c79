import Criteria.Proofs.RuleSet.Building
import Criteria.RuleSet.Evaluation

/-!
Verdicts do not depend on order or on failures. An answer of a set is settled by the conditions that
answer: it is the Boolean value of the set's formula whatever is put in the place of the conditions that fail,
and it stays so when the rules of any set inside are put into another order. Order decides only whether a
set answers or fails.
-/
namespace Criteria

namespace Logic

def combine : Logic → List Bool → Bool
  | .and, answers => answers.all id
  | .or, answers => answers.any id

theorem combine_eq_neutral_iff (logic : Logic) (answers : List Bool) :
    logic.combine answers = logic.neutral ↔ ∀ answer ∈ answers, answer = logic.neutral := by
  cases logic <;> simp [combine, neutral]

end Logic

namespace Rule

mutual

/-- The Boolean value of a rule read as a formula, with a truth value for each condition. -/
def formulaValue (assignment : Position → Bool) : Rule → Bool
  | .leaf _ => assignment []
  | .node logic children => logic.combine (formulaValuesFrom assignment 0 children)

def formulaValuesFrom (assignment : Position → Bool) (turn : Nat) : List Rule → List Bool
  | [] => []
  | rule :: rest =>
    formulaValue (fun below => assignment (turn :: below)) rule :: formulaValuesFrom assignment (turn + 1) rest

end

/-- The assignment gives every condition that answers its own answer; it is free where one fails. -/
def KeepsAnswers (document : Value) (rule : Rule) (assignment : Position → Bool) : Prop :=
  ∀ position condition answer, rule.at? position = some (.leaf condition) →
    condition.evaluate document = .ok answer → assignment position = answer

def ownAnswer (document : Value) (rule : Rule) (position : Position) : Bool :=
  match rule.at? position with
  | some (.leaf condition) => (condition.evaluate document).toOption.getD false
  | _ => false

/-- The same rule up to the order of the rules in the sets at any depth. -/
inductive Reordered : Rule → Rule → Prop
  | leaf (condition : Condition) : Reordered (.leaf condition) (.leaf condition)
  | node {logic : Logic} {children inside others : List Rule} (each : List.Forall₂ Reordered children inside)
      (permuted : inside.Perm others) : Reordered (.node logic children) (.node logic others)

/-- The answer follows from conditions that answer, wherever they stand: all rules of a set give the neutral
answer, or some rule gives the other one. -/
inductive Settled (document : Value) : Rule → Bool → Prop
  | leaf {condition : Condition} {answer : Bool} (own : condition.evaluate document = .ok answer) :
      Settled document (.leaf condition) answer
  | all {logic : Logic} {children : List Rule} (each : ∀ child ∈ children, Settled document child logic.neutral) :
      Settled document (.node logic children) logic.neutral
  | one {logic : Logic} {children : List Rule} {child : Rule} (member : child ∈ children)
      (stops : Settled document child (!logic.neutral)) : Settled document (.node logic children) (!logic.neutral)

variable {document : Value} {logic : Logic}

theorem mem_formulaValuesFrom_iff (assignment : Position → Bool) (first : Nat) (children : List Rule)
    (answer : Bool) :
    answer ∈ formulaValuesFrom assignment first children ↔
      ∃ (turn : Nat) (child : Rule), children[turn]? = some child ∧
        child.formulaValue (fun below => assignment ((first + turn) :: below)) = answer := by
  induction children generalizing first with
  | nil => simp [formulaValuesFrom]
  | cons rule rest ih =>
    rw [formulaValuesFrom, List.mem_cons, ih]
    constructor
    · intro member
      rcases member with same | ⟨turn, child, found, value⟩
      · exact ⟨0, rule, rfl, same.symm⟩
      · refine ⟨turn + 1, child, by simpa using found, ?_⟩
        rw [← value, Nat.add_right_comm, Nat.add_assoc]
    · intro member
      obtain ⟨turn, child, found, value⟩ := member
      cases turn with
      | zero =>
        have same : rule = child := by simpa using found
        exact .inl (same ▸ value.symm)
      | succ turn =>
        refine .inr ⟨turn, child, by simpa using found, ?_⟩
        rw [← value, Nat.add_right_comm, Nat.add_assoc]

theorem formulaValue_node_eq_neutral_iff (assignment : Position → Bool) (children : List Rule) :
    (node logic children).formulaValue assignment = logic.neutral ↔
      ∀ (turn : Nat) (child : Rule), children[turn]? = some child →
        child.formulaValue (fun below => assignment (turn :: below)) = logic.neutral := by
  rw [formulaValue, Logic.combine_eq_neutral_iff]
  simp only [mem_formulaValuesFrom_iff, Nat.zero_add]
  constructor
  · intro each turn child found
    exact each _ ⟨turn, child, found, rfl⟩
  · intro each answer member
    obtain ⟨turn, child, found, value⟩ := member
    rw [← value, each turn child found]

theorem KeepsAnswers.child {children : List Rule} {assignment : Position → Bool} {turn : Nat} {child : Rule}
    (keeps : KeepsAnswers document (.node logic children) assignment) (found : children[turn]? = some child) :
    KeepsAnswers document child (fun below => assignment (turn :: below)) := by
  intro position condition answer stands own
  apply keeps (turn :: position) condition answer _ own
  rw [at?_cons_node, found]
  exact stands

theorem keepsAnswers_ownAnswer (document : Value) (rule : Rule) :
    KeepsAnswers document rule (ownAnswer document rule) := by
  intro position condition answer stands own
  simp [ownAnswer, stands, own, Except.toOption]

/-- Whatever stands in the place of failures, a settled answer is the value of the formula. -/
theorem Settled.formulaValue_eq {rule : Rule} {answer : Bool} (settled : Settled document rule answer)
    {assignment : Position → Bool} (keeps : KeepsAnswers document rule assignment) :
    rule.formulaValue assignment = answer := by
  induction settled generalizing assignment with
  | leaf own => exact keeps [] _ _ rfl own
  | all each ih =>
    rw [formulaValue_node_eq_neutral_iff]
    intro turn child found
    exact ih child (List.mem_of_getElem? found) (keeps.child found)
  | @one logic children child member stops ih =>
    obtain ⟨turn, found⟩ := List.mem_iff_getElem?.1 member
    have stopped := ih (keeps.child found)
    -- Were the set neutral, the rule that stops it would be so as well.
    apply Bool.eq_not_of_ne
    intro neutral
    rw [formulaValue_node_eq_neutral_iff] at neutral
    rw [neutral turn child found] at stopped
    simp at stopped

theorem Settled.unique {rule : Rule} {answer other : Bool} (settled : Settled document rule answer)
    (again : Settled document rule other) : answer = other := by
  have keeps := keepsAnswers_ownAnswer document rule
  rw [← settled.formulaValue_eq keeps, again.formulaValue_eq keeps]

theorem settled_node_iff (children : List Rule) (answer : Bool) :
    Settled document (.node logic children) answer ↔
      answer = logic.neutral ∧ (∀ child ∈ children, Settled document child logic.neutral) ∨
        answer = !logic.neutral ∧ ∃ child ∈ children, Settled document child (!logic.neutral) := by
  constructor
  · intro settled
    cases settled with
    | all each => exact .inl ⟨rfl, each⟩
    | one member stops => exact .inr ⟨rfl, _, member, stops⟩
  · intro cases
    rcases cases with ⟨rfl, each⟩ | ⟨rfl, child, member, stops⟩
    · exact .all each
    · exact .one member stops

/-- What an evaluation answers is settled. -/
theorem settled_of_evaluate {rule : Rule} {answer : Bool} (ended : rule.evaluate document = .ok answer) :
    Settled document rule answer := by
  induction rule generalizing answer with
  | leaf condition =>
    rw [evaluate_leaf] at ended
    exact .leaf ended
  | node logic children ih =>
    induction children with
    | nil =>
      rw [evaluate_node_nil] at ended
      obtain rfl := Except.ok.inj ended
      exact .all nofun
    | cons rule rest rest_ih =>
      rw [evaluate_node_cons] at ended
      cases first : rule.evaluate document with
      | error mismatch =>
        rw [first] at ended
        cases ended
      | ok own =>
        rw [first] at ended
        have head := ih rule List.mem_cons_self first
        by_cases neutral : own = logic.neutral
        · -- The set goes on, and the rest settles the answer either way.
          simp only [neutral, if_true] at ended
          have tail := rest_ih (fun child member => ih child (List.mem_cons_of_mem _ member)) ended
          rw [settled_node_iff] at tail ⊢
          rcases tail with ⟨same, each⟩ | ⟨same, child, member, stops⟩
          · exact .inl ⟨same, List.forall_mem_cons.2 ⟨neutral ▸ head, each⟩⟩
          · exact .inr ⟨same, child, List.mem_cons_of_mem _ member, stops⟩
        · simp only [neutral, if_false] at ended
          obtain rfl := Except.ok.inj ended
          have stops := Bool.eq_not_of_ne neutral
          rw [stops] at head ⊢
          exact .one List.mem_cons_self head

theorem exists_mem_iff_of_reordered {children inside others : List Rule} {property : Rule → Prop}
    (each : List.Forall₂ Reordered children inside) (permuted : inside.Perm others)
    (agree : ∀ child ∈ children, ∀ other, Reordered child other → (property child ↔ property other)) :
    (∃ child ∈ children, property child) ↔ ∃ other ∈ others, property other := by
  have related : List.Forall₂ (fun child other => property child ↔ property other) children inside :=
    ((List.forall₂_and_left _ _).2 ⟨agree, each⟩).imp (fun _ _ pair => pair.1 _ pair.2)
  constructor
  · intro some
    obtain ⟨child, member, holds⟩ := some
    obtain ⟨other, held, same⟩ := exists_mem_of_forall₂ related child member
    exact ⟨other, permuted.mem_iff.1 held, same.1 holds⟩
  · intro some
    obtain ⟨other, member, holds⟩ := some
    obtain ⟨child, held, same⟩ := exists_mem_of_forall₂ related.flip other (permuted.mem_iff.2 member)
    exact ⟨child, held, same.2 holds⟩

theorem Reordered.settled_iff {rule other : Rule} (reordered : Reordered rule other) (answer : Bool) :
    Settled document rule answer ↔ Settled document other answer := by
  induction rule generalizing other answer with
  | leaf condition =>
    cases reordered with
    | leaf => rfl
  | node logic children ih =>
    cases reordered with
    | node each permuted =>
      have some (own : Bool) := exists_mem_iff_of_reordered each permuted
        (fun child member other inside => ih child member inside own)
      have unsettled := exists_mem_iff_of_reordered each permuted
        (fun child member other inside => not_congr (ih child member inside logic.neutral))
      have every := not_congr unsettled
      push Not at every
      rw [settled_node_iff, settled_node_iff, some, every]

theorem Reordered.mem_conditions_iff {rule other : Rule} (reordered : Reordered rule other)
    (condition : Condition) : condition ∈ rule.conditions ↔ condition ∈ other.conditions := by
  induction rule generalizing other with
  | leaf held =>
    cases reordered with
    | leaf => rfl
  | node logic children ih =>
    cases reordered with
    | node each permuted =>
      rw [conditions_node, conditions_node, List.mem_flatMap, List.mem_flatMap]
      exact exists_mem_iff_of_reordered each permuted (fun child member other inside => ih child member inside)

theorem evaluate_of_answers {rule : Rule}
    (answers : ∀ condition ∈ rule.conditions, ∃ answer, condition.evaluate document = .ok answer) :
    ∃ answer, rule.evaluate document = .ok answer := by
  induction rule with
  | leaf condition =>
    rw [evaluate_leaf]
    exact answers condition (by simp)
  | node logic children ih =>
    rw [conditions_node, List.forall_mem_flatMap] at answers
    induction children with
    | nil => exact ⟨_, evaluate_node_nil logic document⟩
    | cons rule rest rest_ih =>
      obtain ⟨head, tail⟩ := List.forall_mem_cons.1 answers
      obtain ⟨own, first⟩ := ih rule List.mem_cons_self head
      obtain ⟨later, goesOn⟩ := rest_ih (fun child member => ih child (List.mem_cons_of_mem _ member)) tail
      rw [evaluate_node_cons, first]
      by_cases neutral : own = logic.neutral
      · exact ⟨later, by simpa [neutral] using goesOn⟩
      · exact ⟨own, by simp [neutral]⟩

end Rule

/-- Neither order nor failures change a verdict: an answer is the value of the formula of every reordered
set, whatever stands for the failing conditions, no two orders give opposite answers, and without failing
conditions all orders give the same answer. -/
theorem RuleSet.verdict_robust (rules : RuleSet) (document : Value) :
    (∀ answer, rules.evaluate document = .ok answer →
      ∀ other : RuleSet, rules.toRule.Reordered other.toRule →
        ∀ assignment, other.toRule.KeepsAnswers document assignment →
          other.toRule.formulaValue assignment = answer) ∧
    (∀ left right : RuleSet, rules.toRule.Reordered left.toRule → rules.toRule.Reordered right.toRule →
      ¬ (left.evaluate document = .ok true ∧ right.evaluate document = .ok false)) ∧
    ((∀ condition ∈ rules.toRule.conditions, ∃ answer, condition.evaluate document = .ok answer) →
      ∃ answer, rules.evaluate document = .ok answer ∧
        ∀ other : RuleSet, rules.toRule.Reordered other.toRule → other.evaluate document = .ok answer) := by
  have settled {other : RuleSet} {answer : Bool} (reordered : rules.toRule.Reordered other.toRule)
      (ended : other.evaluate document = .ok answer) : Rule.Settled document rules.toRule answer :=
    (reordered.settled_iff answer).2 (Rule.settled_of_evaluate ended)
  refine ⟨?_, ?_, ?_⟩
  · intro answer ended other reordered assignment keeps
    have stays := (reordered.settled_iff answer).1 (Rule.settled_of_evaluate ended)
    exact stays.formulaValue_eq keeps
  · intro left right toLeft toRight both
    have opposite := (settled toLeft both.1).unique (settled toRight both.2)
    cases opposite
  · intro answers
    obtain ⟨answer, ended⟩ := Rule.evaluate_of_answers answers
    refine ⟨answer, ended, ?_⟩
    intro other reordered
    have others : ∀ condition ∈ other.toRule.conditions, ∃ answer, condition.evaluate document = .ok answer :=
      fun condition member => answers condition ((reordered.mem_conditions_iff condition).2 member)
    obtain ⟨again, ended'⟩ := Rule.evaluate_of_answers others
    have same := (settled reordered ended').unique (Rule.settled_of_evaluate ended)
    exact same ▸ ended'

end Criteria
