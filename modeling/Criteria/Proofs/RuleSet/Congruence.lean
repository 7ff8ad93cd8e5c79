import Criteria.Proofs.Condition.Congruence
import Criteria.Proofs.RuleSet.Positions
import Criteria.RuleSet.Report

/-!
Equal sets on equal documents. Equality of sets ignores how references are written, as an integer or as
a float, and so does evaluation: equal sets give the same answer and the same outcomes on equal
documents, or fail with the same demand.
-/
namespace Criteria

def Trail.outline (trail : Trail) : List Outcome × Except (String × Operator × Expectation) Bool :=
  (trail.applied.map Outcome.ofAnswer, trail.ending.mapError Mismatch.demand)

theorem Mismatch.eq_of_demand {mismatch other : Mismatch} (same : mismatch.demand = other.demand) :
    other = { mismatch with found := other.found } := by
  cases mismatch
  cases other
  simpa [demand, eq_comm] using same

namespace Rule

theorem equalAll_iff (lefts rights : List Rule) :
    equalAll lefts rights = true ↔ List.Forall₂ (fun left right => left.equals right = true) lefts rights := by
  induction lefts generalizing rights with
  | nil => cases rights <;> simp [equalAll]
  | cons left lefts ih => cases rights <;> simp [equalAll, ih]

def goOn {α : Type} (logic : Logic) (first rest : List Outcome × Except α Bool) : List Outcome × Except α Bool :=
  match first.2 with
  | .error _ => first
  | .ok answer => if answer = logic.neutral then (first.1 ++ rest.1, rest.2) else first

theorem outline_trailAll_cons (document : Value) (logic : Logic) (rule : Rule) (rest : List Rule) :
    (trailAll document logic (rule :: rest)).outline =
      goOn logic (rule.trail document).outline (trailAll document logic rest).outline := by
  rw [trailAll]
  cases ending : (rule.trail document).ending with
  | error mismatch => simp [goOn, Trail.outline, ending]
  | ok answer =>
    by_cases neutral : answer = logic.neutral
    · simp [goOn, Trail.outline, Trail.after, ending, neutral]
    · simp [goOn, Trail.outline, ending, neutral]

theorem outline_leaf_congr {left right : Condition} {document document' : Value}
    (same : left.equals right = true) (documents : document.equals document' = true) :
    ((leaf left).trail document).outline = ((leaf right).trail document').outline := by
  obtain ⟨subjects, operators, -, negations⟩ := (Condition.equals_iff left right).1 same
  have answers := Condition.evaluate_congr same documents
  rw [trail, trail]
  cases own : left.evaluate document with
  | ok answer =>
    cases own' : right.evaluate document' with
    | ok answer' =>
      rw [own, own'] at answers
      obtain rfl : answer = answer' := Except.ok.inj answers
      simp [Trail.outline, Outcome.ofAnswer, subjects, operators, negations]
    | error mismatch' => simp [own, own'] at answers
  | error mismatch =>
    cases own' : right.evaluate document' with
    | ok answer' => simp [own, own'] at answers
    | error mismatch' =>
      rw [own, own'] at answers
      exact congrArg (Prod.mk []) answers

theorem outline_congr {left right : Rule} {document document' : Value} (same : left.equals right = true)
    (documents : document.equals document' = true) :
    (left.trail document).outline = (right.trail document').outline := by
  induction left generalizing right with
  | leaf condition =>
    cases right with
    | leaf other => exact outline_leaf_congr same documents
    | node logic children => simp [equals] at same
  | node logic children ih =>
    cases right with
    | leaf other => simp [equals] at same
    | node otherLogic others =>
      simp only [equals, Bool.and_eq_true, beq_iff_eq, equalAll_iff] at same
      obtain ⟨rfl, each⟩ := same
      rw [trail, trail]
      induction each with
      | nil => rfl
      | cons head _ rest =>
        rw [outline_trailAll_cons, outline_trailAll_cons, ih _ List.mem_cons_self head,
          rest (fun child member => ih child (List.mem_cons_of_mem _ member))]

end Rule

namespace RuleSet

/-- Two evaluations end alike: with the same answer and the same outcomes, or with failures that differ
at most in the kind that was found. -/
def EndAlike (rules : RuleSet) (document : Value) (rules' : RuleSet) (document' : Value) : Prop :=
  (∃ answer outcomes, rules.evaluate document = .ok answer ∧ rules'.evaluate document' = .ok answer ∧
    rules.report document = .ok ⟨answer, outcomes⟩ ∧ rules'.report document' = .ok ⟨answer, outcomes⟩) ∨
  ∃ mismatch found, rules.evaluate document = .error mismatch ∧
    rules'.evaluate document' = .error { mismatch with found := found } ∧
    rules.report document = .error mismatch ∧
    rules'.report document' = .error { mismatch with found := found }

/-- Evaluation respects equality. -/
theorem evaluation_congr {rules rules' : RuleSet} {document document' : Value}
    (sameRules : (rules == rules') = true) (sameDocuments : (document == document') = true) :
    EndAlike rules document rules' document' := by
  have outlines := Rule.outline_congr sameRules sameDocuments
  obtain ⟨outcomes, endings⟩ := Prod.mk.inj outlines
  change (rules.evaluate document).mapError _ = (rules'.evaluate document').mapError _ at endings
  cases ended : rules.evaluate document with
  | ok answer =>
    cases ended' : rules'.evaluate document' with
    | ok answer' =>
      rw [ended, ended'] at endings
      obtain rfl : answer = answer' := Except.ok.inj endings
      refine .inl ⟨answer, _, ended, ended', report_of_ok ended, ?_⟩
      rw [report_of_ok ended']
      exact congrArg (fun shown => Except.ok (Report.mk answer shown)) outcomes.symm
    | error mismatch' => simp [ended, ended'] at endings
  | error mismatch =>
    cases ended' : rules'.evaluate document' with
    | ok answer' => simp [ended, ended'] at endings
    | error mismatch' =>
      rw [ended, ended'] at endings
      have alike := Mismatch.eq_of_demand (Except.error.inj endings)
      have failed' := ended'.trans (congrArg Except.error alike)
      exact .inr ⟨mismatch, mismatch'.found, ended, failed', report_of_error ended, report_of_error failed'⟩

def oneAsInteger : RuleSet :=
  .all [.leaf ⟨⟨"a", by decide⟩, .gte, .int 1, false, .order .atLeast (.whole 1), rfl, rfl, rfl⟩,
    .leaf ⟨⟨"a", by decide⟩, .contains, .int 1, false, .contains (.int 1), rfl, rfl, rfl⟩]

def oneAsFloat : RuleSet :=
  .all [.leaf ⟨⟨"a", by decide⟩, .gte, .float ⟨0x3ff0000000000000⟩, false,
      .order .atLeast (.real ⟨0x3ff0000000000000⟩), rfl, rfl, rfl⟩,
    .leaf ⟨⟨"a", by decide⟩, .contains, .float ⟨0x3ff0000000000000⟩, false,
      .contains (.float ⟨0x3ff0000000000000⟩), rfl, rfl, rfl⟩]

theorem evaluation_congr_one :
    (oneAsInteger == oneAsFloat) = true ∧
      (Value.map [("a", .bool true)] == Value.map [("a", .float ⟨0x3ff0000000000000⟩)]) = true ∧
      EndAlike oneAsInteger (.map [("a", .bool true)]) oneAsFloat
        (.map [("a", .float ⟨0x3ff0000000000000⟩)]) := by
  have rules : (oneAsInteger == oneAsFloat) = true := by decide +kernel
  have documents : (Value.map [("a", .bool true)] ==
      Value.map [("a", .float ⟨0x3ff0000000000000⟩)]) = true := by decide +kernel
  exact ⟨rules, documents, evaluation_congr rules documents⟩

end RuleSet

end Criteria
