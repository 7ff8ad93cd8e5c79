import Criteria.Proofs.Condition.Building
import Criteria.Proofs.RuleSet.Positions
import Mathlib.Data.List.Forall2

/-!
Which rules are built from which trees. A condition comes from an object whose fields describe it, a set
from an object whose only key names its logic over the list of its rules.
-/
namespace Criteria

theorem Logic.ofName?_eq_some_iff (word : String) (logic : Logic) :
    ofName? word = some logic ↔ word.toList.map Char.toLower = logic.name.toList := by
  unfold ofName?
  by_cases isAnd : word.toList.map Char.toLower = ['a', 'n', 'd']
  · cases logic <;> simp [isAnd, name]
  · by_cases isOr : word.toList.map Char.toLower = ['o', 'r']
    · cases logic <;> simp [isOr, name]
    · cases logic <;> simp [isAnd, isOr, name]

theorem map_eq_ok_iff {ε α β : Type} (change : α → β) (outcome : Except ε α) (result : β) :
    outcome.map change = .ok result ↔ ∃ value, outcome = .ok value ∧ change value = result := by
  cases outcome <;> simp [Except.map]

theorem exists_mem_of_forall₂ {α β : Type} {relation : α → β → Prop} {lefts : List α} {rights : List β}
    (each : List.Forall₂ relation lefts rights) : ∀ left ∈ lefts, ∃ right ∈ rights, relation left right := by
  induction each with
  | nil => simp
  | @cons first second lefts rights head tail ih =>
    intro left member
    rcases List.mem_cons.1 member with rfl | later
    · exact ⟨second, List.mem_cons_self, head⟩
    · obtain ⟨right, held, related⟩ := ih left later
      exact ⟨right, List.mem_cons_of_mem _ held, related⟩

theorem exists_of_forall₂ {α β : Type} {relation : α → β → Prop} {lefts : List α} {rights : List β}
    (each : List.Forall₂ relation lefts rights) : ∀ left ∈ lefts, ∃ right, relation left right := by
  intro left member
  obtain ⟨right, -, related⟩ := exists_mem_of_forall₂ each left member
  exact ⟨right, related⟩

theorem Condition.ofJson_eq_ok_iff (json : Json) (condition : Condition) :
    ofJson json = .ok condition ↔ ∃ fields, json = .object fields ∧ condition.DescribedBy fields := by
  cases json with
  | object fields => simp [ofJson, ofFields_eq_ok_iff]
  | null => simp [ofJson]
  | bool b => simp [ofJson]
  | number n => simp [ofJson]
  | string s => simp [ofJson]
  | array items => simp [ofJson]

theorem Condition.DescribedBy.not_single {condition : Condition} {key : String} {operands : Json} :
    ¬ condition.DescribedBy [(key, operands)] := by
  intro described
  obtain ⟨value, present, -⟩ := described.value
  have subject := Fields.mem_of_get? described.subject
  have reference := Fields.mem_of_get? present
  simp only [List.mem_singleton, Prod.mk.injEq] at subject reference
  exact absurd (subject.1.trans reference.1.symm) (by decide)

namespace Rule

theorem toItems_eq_map (rules : List Rule) : toItems rules = rules.map toJson :=
  eq_map_of_cons rfl (fun _ _ => rfl) rules

theorem ofItems_eq_ok_iff (items : List Json) (rules : List Rule) :
    ofItems items = .ok rules ↔ List.Forall₂ (fun item rule => ofJson item = .ok rule) items rules := by
  induction items generalizing rules with
  | nil => cases rules <;> simp [ofItems]
  | cons item rest ih =>
    rw [ofItems]
    cases head : ofJson item with
    | error error => cases rules <;> simp [head]
    | ok rule => cases tail : ofItems rest <;> cases rules <;> simp [head, ← ih, tail]

theorem operandsOfJson_eq_ok_iff (logic : Logic) (operands : Json) (rules : List Rule) :
    operandsOfJson logic operands = .ok rules ↔
      ∃ items, operands = .array items ∧
        List.Forall₂ (fun item rule => ofJson item = .ok rule) items rules := by
  cases operands with
  | array items => simp [operandsOfJson, ofItems_eq_ok_iff]
  | null => simp [operandsOfJson]
  | bool b => simp [operandsOfJson]
  | number n => simp [operandsOfJson]
  | string s => simp [operandsOfJson]
  | object fields => simp [operandsOfJson]

def setOf? : Json → Option (Logic × Json)
  | .object [(key, operands)] => (Logic.ofName? key).map fun logic => (logic, operands)
  | _ => none

theorem setOf?_eq_some_iff (json : Json) (logic : Logic) (operands : Json) :
    setOf? json = some (logic, operands) ↔
      ∃ key, json = .object [(key, operands)] ∧ Logic.ofName? key = some logic := by
  unfold setOf?
  split
  · rename_i key held
    simp only [Option.map_eq_some_iff, Prod.mk.injEq, Json.object.injEq, List.cons.injEq, and_true]
    constructor
    · rintro ⟨other, named, rfl, rfl⟩
      exact ⟨key, ⟨rfl, rfl⟩, named⟩
    · rintro ⟨other, ⟨rfl, rfl⟩, named⟩
      exact ⟨logic, named, rfl, rfl⟩
  · rename_i notSingle
    simp only [reduceCtorEq, false_iff, not_exists, not_and]
    exact fun key same => absurd same (notSingle key operands)

theorem ofJson_eq (json : Json) :
    ofJson json = match setOf? json with
      | some (logic, operands) => (operandsOfJson logic operands).map (.node logic)
      | none => (Condition.ofJson json).map .leaf := by
  unfold ofJson
  split
  · rename_i key operands
    rw [setOf?]
    cases Logic.ofName? key <;> rfl
  · rename_i notSingle
    rw [setOf?]
    exact notSingle

theorem ofJson_eq_leaf_iff (json : Json) (condition : Condition) :
    ofJson json = .ok (.leaf condition) ↔ ∃ fields, json = .object fields ∧ condition.DescribedBy fields := by
  rw [ofJson_eq]
  cases set : setOf? json with
  | none => simp [map_eq_ok_iff, Condition.ofJson_eq_ok_iff]
  | some found =>
    obtain ⟨key, rfl, -⟩ := (setOf?_eq_some_iff _ _ _).1 set
    simp only [map_eq_ok_iff, reduceCtorEq, and_false, exists_false, false_iff, Json.object.injEq,
      exists_eq_left']
    exact Condition.DescribedBy.not_single

theorem ofJson_eq_node_iff_setOf? (json : Json) (logic : Logic) (children : List Rule) :
    ofJson json = .ok (.node logic children) ↔
      ∃ operands, setOf? json = some (logic, operands) ∧ operandsOfJson logic operands = .ok children := by
  rw [ofJson_eq]
  cases setOf? json with
  | none => simp [map_eq_ok_iff]
  | some found =>
    simp only [map_eq_ok_iff, node.injEq, Option.some.injEq]
    constructor
    · rintro ⟨others, built, rfl, rfl⟩
      exact ⟨found.2, rfl, built⟩
    · rintro ⟨operands, rfl, built⟩
      exact ⟨children, built, rfl, rfl⟩

theorem ofJson_eq_node_iff (json : Json) (logic : Logic) (children : List Rule) :
    ofJson json = .ok (.node logic children) ↔
      ∃ key items, json = .object [(key, .array items)] ∧ Logic.ofName? key = some logic ∧
        List.Forall₂ (fun item child => ofJson item = .ok child) items children := by
  simp only [ofJson_eq_node_iff_setOf?, setOf?_eq_some_iff, operandsOfJson_eq_ok_iff]
  constructor
  · rintro ⟨operands, ⟨key, rfl, named⟩, items, rfl, each⟩
    exact ⟨key, items, rfl, named, each⟩
  · rintro ⟨key, items, rfl, named, each⟩
    exact ⟨_, ⟨key, rfl, named⟩, items, rfl, each⟩

end Rule

/-- A description of a set is read like a rule, but it must not be a condition. -/
theorem RuleSet.ofJson_eq_ok_iff (json : Json) (rules : RuleSet) :
    ofJson json = .ok rules ↔ Rule.ofJson json = .ok rules.toRule := by
  rw [toRule, Rule.ofJson_eq_node_iff_setOf?]
  unfold ofJson
  split
  · rename_i key operands
    rw [Rule.setOf?]
    cases Logic.ofName? key with
    | none => simp
    | some logic =>
      obtain ⟨own, children⟩ := rules
      simp only [map_eq_ok_iff, mk.injEq, Option.map_some, Option.some.injEq, Prod.mk.injEq]
      constructor
      · rintro ⟨others, built, rfl, rfl⟩
        exact ⟨operands, ⟨rfl, rfl⟩, built⟩
      · rintro ⟨others, ⟨rfl, rfl⟩, built⟩
        exact ⟨children, built, rfl, rfl⟩
  · rename_i fields notSingle
    have noSet : Rule.setOf? (.object fields) = none := by
      rw [Rule.setOf?]
      simpa using notSingle
    simp [noSet]
  · rename_i notSingle notObject
    have noSet : Rule.setOf? json = none := by
      rw [Rule.setOf?]
      exact notSingle
    simp [noSet]

end Criteria
