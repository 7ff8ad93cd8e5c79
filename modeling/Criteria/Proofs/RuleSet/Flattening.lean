import Criteria.Proofs.RuleSet.Composition
import Criteria.RuleSet.Report
import Mathlib.Logic.Relation

/-!
Flattening. A nested set may be replaced by its rules where the logic is the same, and by its only rule in any
case: composing trails is associative, and the empty set is a unit of it. The same conditions are asked in the
same order, with the same answers, and the evaluation ends in the same way.
-/
namespace Criteria

namespace Rule

variable {document : Value} {logic : Logic}

theorem trail_node_singleton (only : Rule) : (node logic [only]).trail document = only.trail document := by
  rw [trail_node, trailAll_cons, trailAll_nil, Trail.followedBy_empty]

theorem countAll_append (children others : List Rule) :
    countAll (children ++ others) = countAll children + countAll others := by
  induction children with
  | nil => rw [List.nil_append, countAll, Nat.zero_add]
  | cons rule rest ih => rw [List.cons_append, countAll, countAll, ih, Nat.add_assoc]

/-- One step of flattening, between the rules of a set or anywhere inside one of them. -/
inductive Flattens : Rule → Rule → Prop
  /-- The rules of a nested set take its place in a set of the same logic. -/
  | splice (logic : Logic) (before inner after : List Rule) :
      Flattens (.node logic (before ++ .node logic inner :: after)) (.node logic (before ++ inner ++ after))
  /-- The only rule of a nested set takes its place. -/
  | unwrap (logic inner : Logic) (before : List Rule) (only : Rule) (after : List Rule) :
      Flattens (.node logic (before ++ .node inner [only] :: after)) (.node logic (before ++ only :: after))
  | inside (logic : Logic) (before : List Rule) {rule other : Rule} (after : List Rule)
      (step : Flattens rule other) :
      Flattens (.node logic (before ++ rule :: after)) (.node logic (before ++ other :: after))

/-- Only the trail of a rule matters for the trail of the set that holds it. -/
theorem trail_node_congr {rule other : Rule} (same : rule.trail document = other.trail document)
    (before after : List Rule) :
    (node logic (before ++ rule :: after)).trail document =
      (node logic (before ++ other :: after)).trail document := by
  rw [trail_node, trail_node, trailAll_append, trailAll_append, trailAll_cons, trailAll_cons, same]

theorem Flattens.trail_eq {rule other : Rule} (step : Flattens rule other) :
    rule.trail document = other.trail document := by
  induction step with
  | splice logic before inner after =>
    calc (node logic (before ++ node logic inner :: after)).trail document
        = Trail.followedBy logic (trailAll document logic before)
            (Trail.followedBy logic (trailAll document logic inner) (trailAll document logic after)) := by
          rw [trail_node, trailAll_append, trailAll_cons, trail_node]
      _ = Trail.followedBy logic
            (Trail.followedBy logic (trailAll document logic before) (trailAll document logic inner))
            (trailAll document logic after) := (Trail.followedBy_assoc _ _ _).symm
      _ = (node logic (before ++ inner ++ after)).trail document := by
          rw [trail_node, trailAll_append, trailAll_append]
  | unwrap logic inner before only after =>
    apply trail_node_congr
    exact trail_node_singleton only
  | inside logic before after step ih =>
    apply trail_node_congr
    exact ih

theorem Flattens.count_eq {rule other : Rule} (step : Flattens rule other) : rule.count = other.count := by
  induction step with
  | splice logic before inner after =>
    simp only [count, countAll_append, countAll]
    omega
  | unwrap logic inner before only after => simp only [count, countAll_append, countAll, Nat.add_zero]
  | inside logic before after step ih => simp only [count, countAll_append, countAll, ih]

theorem eq_of_flattens {α : Type} {view : Rule → α}
    (kept : ∀ rule other, Flattens rule other → view rule = view other) {rule other : Rule}
    (steps : Relation.ReflTransGen Flattens rule other) : view rule = view other := by
  induction steps with
  | refl => rfl
  | tail _ step ih => exact ih.trans (kept _ _ step)

end Rule

namespace RuleSet

def FlattensTo (rules other : RuleSet) : Prop :=
  Relation.ReflTransGen Rule.Flattens rules.toRule other.toRule

/-- Flattening changes neither the answer or the failure, nor the report, nor the number of conditions. -/
theorem evaluation_flattened {rules other : RuleSet} (flattened : rules.FlattensTo other) (document : Value) :
    other.evaluate document = rules.evaluate document ∧ other.report document = rules.report document ∧
      other.count = rules.count := by
  have trails : rules.trail document = other.trail document :=
    Rule.eq_of_flattens (fun _ _ step => step.trail_eq) flattened
  have counts : rules.count = other.count := Rule.eq_of_flattens (fun _ _ step => step.count_eq) flattened
  refine ⟨?_, ?_, counts.symm⟩
  · rw [evaluate, evaluate, trails]
  · rw [report, report, trails]

def statusUp : Rule :=
  .leaf ⟨⟨"status", by decide⟩, .eq, .string "up", false, .equal (.string "up"), rfl, rfl, rfl⟩

def metricBelowFive : Rule :=
  .leaf ⟨⟨"metric", by decide⟩, .lt, .int 5, false, .order .less (.whole 5), rfl, rfl, rfl⟩

def wrapped : RuleSet :=
  .all [.node .or [statusUp], .node .and [.node .and [], metricBelowFive]]

def sideBySide : RuleSet := .all [statusUp, metricBelowFive]

theorem evaluation_flattened_wrapped :
    wrapped.FlattensTo sideBySide ∧
      wrapped.evaluate (.map [("status", .string "up")]) = .error ⟨"metric", .lt, .number, .null⟩ ∧
      sideBySide.evaluate (.map [("status", .string "up")]) = .error ⟨"metric", .lt, .number, .null⟩ := by
  have flattened : wrapped.FlattensTo sideBySide := by
    have single :
        Rule.Flattens wrapped.toRule (.node .and [statusUp, .node .and [.node .and [], metricBelowFive]]) :=
      .unwrap .and .or [] statusUp _
    have inner : Rule.Flattens (.node .and [.node .and [], metricBelowFive]) (.node .and [metricBelowFive]) :=
      .splice .and [] [] [metricBelowFive]
    have outer : Rule.Flattens (.node .and [statusUp, .node .and [metricBelowFive]]) sideBySide.toRule :=
      .splice .and [statusUp] [metricBelowFive] []
    exact ((Relation.ReflTransGen.single single).tail (.inside .and [statusUp] [] inner)).tail outer
  have failed : wrapped.evaluate (.map [("status", .string "up")]) =
      .error ⟨"metric", .lt, .number, .null⟩ := by rfl
  obtain ⟨same, -⟩ := evaluation_flattened flattened (.map [("status", .string "up")])
  exact ⟨flattened, failed, same.trans failed⟩

end RuleSet

end Criteria
