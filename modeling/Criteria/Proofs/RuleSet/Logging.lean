import Criteria.Proofs.RuleSet.Composition
import Criteria.Proofs.RuleSet.Grammar
import Criteria.Proofs.RuleSet.Reached
import Criteria.RuleSet.Journal

/-!
The log is a faithful account. What a walk writes does not depend on who watches it: one record for every
reached condition that answers, in the order in which they are asked, and then one for the failure if the walk
ends in one. Nothing is written about other conditions. Building writes one record, about the whole set, if it
succeeds, and none if it does not.
-/
namespace Criteria

namespace Logged

variable {σ ε α β : Type}

@[simp] theorem runFrom_pure (journal : Journal σ) (value : α) :
    (pure value : Logged σ ε α).runFrom journal = (.ok value, journal) := rfl

@[simp] theorem runFrom_throw (journal : Journal σ) (error : ε) :
    (throw error : Logged σ ε α).runFrom journal = (.error error, journal) := rfl

@[simp] theorem runFrom_write (journal : Journal σ) (record : Record) :
    (write record : Logged σ ε Unit).runFrom journal =
      (.ok (), { journal with records := journal.records ++ [record] }) := rfl

@[simp] theorem runFrom_tell (journal : Journal σ) (observe : σ → σ) :
    (tell observe : Logged σ ε Unit).runFrom journal = (.ok (), { journal with seen := observe journal.seen }) := rfl

@[simp] theorem runFrom_liftExcept (journal : Journal σ) (outcome : Except ε α) :
    (liftExcept outcome : Logged σ ε α).runFrom journal = (outcome, journal) := by
  cases outcome <;> rfl

theorem runFrom_bind (journal : Journal σ) (first : Logged σ ε α) (next : α → Logged σ ε β) :
    (first >>= next).runFrom journal = match first.runFrom journal with
      | (.ok value, later) => (next value).runFrom later
      | (.error error, later) => (.error error, later) := by
  simp only [runFrom, ExceptT.run, bind, ExceptT.bind, ExceptT.mk, StateT.bind, StateT.run]
  rcases first journal with ⟨_ | _, later⟩ <;> rfl

end Logged

def Trail.records (trail : Trail) : List Record :=
  trail.applied.map (fun entry => .answered entry.1 entry.2)
    ++ match trail.ending with
      | .ok _ => []
      | .error mismatch => [.failed mismatch]

section Walk

variable {σ : Type} {observe : Condition → Bool → σ → σ} {document : Value} {logic : Logic}

def Journal.behind (observe : Condition → Bool → σ → σ) (journal : Journal σ) (trail : Trail) :
    Journal σ where
  records := journal.records ++ trail.records
  seen := trail.applied.foldl (fun seen entry => observe entry.1 entry.2 seen) journal.seen

theorem Journal.behind_empty (journal : Journal σ) : journal.behind observe (Trail.empty logic) = journal := by
  simp [behind, Trail.empty, Trail.records]

theorem Journal.behind_after (journal : Journal σ) {first : Trail} {answer : Bool}
    (answers : first.ending = .ok answer) (rest : Trail) :
    journal.behind observe (Trail.after first.applied rest) = (journal.behind observe first).behind observe rest := by
  simp [behind, Trail.after, Trail.records, answers]

namespace Rule

theorem runFrom_walk_leaf (journal : Journal σ) (condition : Condition) :
    ((leaf condition).walk observe document).runFrom journal =
      (((leaf condition).trail document).ending, journal.behind observe ((leaf condition).trail document)) := by
  rw [walk, trail, Condition.ask]
  cases condition.evaluate document with
  | ok answer => simp only [Logged.runFrom_bind, Logged.runFrom_write, Logged.runFrom_tell, Logged.runFrom_pure,
      Journal.behind, Trail.records, List.map_cons, List.map_nil, List.append_nil, List.foldl_cons, List.foldl_nil]
  | error mismatch => simp only [Logged.runFrom_bind, Logged.runFrom_write, Logged.runFrom_throw,
      Journal.behind, Trail.records, List.map_nil, List.nil_append, List.foldl_nil]

/-- One set: if every rule writes what its trail records, so do the rules of the set together. -/
theorem runFrom_walkAll (children : List Rule)
    (each : ∀ child ∈ children, ∀ journal : Journal σ, (child.walk observe document).runFrom journal =
      ((child.trail document).ending, journal.behind observe (child.trail document))) (journal : Journal σ) :
    (walkAll observe document logic children).runFrom journal =
      ((trailAll document logic children).ending, journal.behind observe (trailAll document logic children)) := by
  induction children generalizing journal with
  | nil =>
    rw [walkAll, trailAll_nil, Logged.runFrom_pure, Journal.behind_empty]
    rfl
  | cons rule rest ih =>
    have tail := ih (fun child member => each child (List.mem_cons_of_mem rule member))
    rw [walkAll, trailAll_cons, Logged.runFrom_bind, each rule List.mem_cons_self]
    by_cases goesOn : (rule.trail document).ending = .ok logic.neutral
    · rw [Trail.followedBy_of_neutral goesOn, Journal.behind_after journal goesOn, goesOn]
      dsimp only
      rw [if_pos rfl, tail]
      rfl
    · rw [Trail.followedBy_of_not_neutral goesOn]
      cases ending : (rule.trail document).ending with
      | error mismatch => rfl
      | ok answer =>
        have other : answer ≠ logic.neutral := fun same => goesOn (by rw [ending, same])
        dsimp only
        rw [if_neg other, Logged.runFrom_pure]

/-- A walk ends as the trail does and writes what the trail records, whoever observes it. -/
theorem runFrom_walk (rule : Rule) (journal : Journal σ) :
    (rule.walk observe document).runFrom journal =
      ((rule.trail document).ending, journal.behind observe (rule.trail document)) := by
  induction rule generalizing journal with
  | leaf condition => exact runFrom_walk_leaf journal condition
  | node logic children ih =>
    rw [walk, trail_node]
    exact runFrom_walkAll children ih journal

end Rule

end Walk

namespace RuleSet

variable (rules : RuleSet) (document : Value)

theorem evaluationRecords_eq : rules.evaluationRecords document = (rules.trail document).records := by
  rw [evaluationRecords, Logged.records, evaluateLogged, Rule.runFrom_walk]
  exact List.nil_append _

theorem runFrom_evaluateLogged (before : List Record) :
    (rules.evaluateLogged document).runFrom ⟨before, ()⟩ =
      (rules.evaluate document, ⟨before ++ rules.evaluationRecords document, ()⟩) := by
  rw [evaluateLogged, Rule.runFrom_walk, evaluationRecords_eq]
  rfl

theorem runFrom_reportLogged (before : List Record) :
    (rules.reportLogged document).runFrom ⟨before, []⟩ =
      (rules.report document, ⟨before ++ rules.evaluationRecords document,
        (rules.trail document).applied.map Outcome.ofAnswer⟩) := by
  have collected (applied : List (Condition × Bool)) (outcomes : List Outcome) :
      applied.foldl (fun outcomes entry => outcomes ++ [Outcome.ofAnswer (entry.1, entry.2)]) outcomes =
        outcomes ++ applied.map Outcome.ofAnswer := by
    induction applied generalizing outcomes with
    | nil => simp
    | cons entry rest ih => simp [ih]
  rw [reportLogged, Logged.runFrom_bind, Rule.runFrom_walk, evaluationRecords_eq, report, trail]
  simp only [Journal.behind, collected, List.nil_append]
  cases (rules.toRule.trail document).ending <;> rfl

end RuleSet

theorem isOk_iff {ε α : Type} (outcome : Except ε α) :
    outcome.isOk = true ↔ ∃ value, outcome = .ok value := by
  cases outcome <;> simp [Except.isOk, Except.toBool]

namespace Rule

noncomputable def answeringLeaves (document : Value) (root : Rule) : List (Position × Condition) :=
  (reachedLeaves document root).filter fun leaf => (leaf.2.evaluate document).isOk

variable {document : Value}

theorem mem_answeringLeaves_iff (root : Rule) (position : Position) (condition : Condition) :
    (position, condition) ∈ answeringLeaves document root ↔
      root.at? position = some (.leaf condition) ∧ Reached document root position ∧
        ∃ answer, condition.evaluate document = .ok answer := by
  rw [answeringLeaves, List.mem_filter, mem_reachedLeaves_iff, isOk_iff, and_assoc]

theorem filter_answered {asked : List Condition} {applied : List (Condition × Bool)}
    (answered : List.Forall₂ (Answered document) asked applied) :
    (asked.filter fun condition => (condition.evaluate document).isOk) = asked := by
  apply List.filter_eq_self.2
  intro condition member
  exact (isOk_iff _).2 (answers_of_answered answered condition member)

theorem answered_answeringLeaves (rule : Rule) :
    List.Forall₂ (Answered document) ((answeringLeaves document rule).map Prod.snd)
      (rule.trail document).applied := by
  have forget : (answeringLeaves document rule).map Prod.snd =
      ((reachedLeaves document rule).map Prod.snd).filter fun condition => (condition.evaluate document).isOk := by
    rw [answeringLeaves, List.filter_map]
    rfl
  have tells := trail_tells document rule
  rw [forget]
  cases ending : (rule.trail document).ending with
  | ok answer =>
    simp only [Trail.Tells, ending] at tells
    rw [filter_answered tells]
    exact tells
  | error mismatch =>
    simp only [Trail.Tells, ending] at tells
    obtain ⟨before, last, asked, answered, failure⟩ := tells
    have silent : (last.evaluate document).isOk = false := by rw [failure]; rfl
    rw [asked, List.filter_append, filter_answered answered, List.filter_singleton, silent]
    simpa using answered

end Rule

namespace Record

def TellsAnswer (document : Value) (leaf : Rule.Position × Condition) (record : Record) : Prop :=
  ∃ answer, leaf.2.evaluate document = .ok answer ∧ record = .answered leaf.2 answer ∧
    record.level = "trace" ∧ record.message = leaf.2.text ++ " => " ++ Text.truth answer

def TellsFailure (mismatch : Mismatch) (record : Record) : Prop :=
  record = .failed mismatch ∧ record.level = "debug" ∧
    record.message = "condition evaluation failed: " ++ mismatch.message

def TellsBuilt (logic : Logic) (count : Nat) (record : Record) : Prop :=
  record = .built logic count ∧ record.level = "debug" ∧
    record.message = "built '" ++ logic.name ++ "' rule set with " ++ toString count ++ " predicates"

def Matches (record : Record) (outcome : Outcome) : Prop :=
  ∃ condition answer, record = .answered condition answer ∧ outcome = .ofAnswer (condition, answer)

end Record

namespace RuleSet

/-- Records account for an evaluation: one for each reached condition that answers, from left to right, with
its own answer, which are also the outcomes of the report if there is one, and then one for the failure if the
evaluation ends in one. -/
structure AccountedBy (rules : RuleSet) (document : Value) (answering : List (Rule.Position × Condition))
    (answers failures : List Record) : Prop where
  increasing : answering.Pairwise (fun left right => left.1 < right.1)
  asked : ∀ position condition, (position, condition) ∈ answering ↔
    rules.toRule.at? position = some (.leaf condition) ∧ Rule.Reached document rules.toRule position ∧
      ∃ answer, condition.evaluate document = .ok answer
  told : List.Forall₂ (Record.TellsAnswer document) answering answers
  reported : ∀ report, rules.report document = .ok report → List.Forall₂ Record.Matches answers report.outcomes
  answered : ∀ answer, rules.evaluate document = .ok answer → failures = []
  failed : ∀ mismatch, rules.evaluate document = .error mismatch →
    ∃ record, failures = [record] ∧ record.TellsFailure mismatch

variable {rules : RuleSet} {document : Value}

theorem accountedBy_trail :
    rules.AccountedBy document (Rule.answeringLeaves document rules.toRule)
      ((rules.trail document).applied.map fun entry => .answered entry.1 entry.2)
      (match rules.evaluate document with
        | .ok _ => []
        | .error mismatch => [.failed mismatch]) where
  increasing := (Rule.reachedLeaves_increasing rules.toRule).filter _
  asked := Rule.mem_answeringLeaves_iff rules.toRule
  told := by
    have answered : List.Forall₂ (Answered document) _ (rules.trail document).applied :=
      Rule.answered_answeringLeaves rules.toRule
    rw [List.forall₂_map_left_iff] at answered
    rw [List.forall₂_map_right_iff]
    apply answered.imp
    intro leaf entry own
    obtain ⟨same, evaluated⟩ := own
    exact ⟨entry.2, evaluated, by rw [same], rfl, by rw [← same]; rfl⟩
  reported := by
    intro report reported
    cases ended : rules.evaluate document with
    | error mismatch =>
      rw [report_of_error ended] at reported
      cases reported
    | ok answer =>
      rw [report_of_ok ended] at reported
      cases reported
      rw [List.forall₂_map_left_iff, List.forall₂_map_right_iff, List.forall₂_same]
      intro entry _
      exact ⟨entry.1, entry.2, rfl, rfl⟩
  answered := by
    intro answer ended
    rw [ended]
  failed := by
    intro mismatch failure
    rw [failure]
    exact ⟨.failed mismatch, rfl, rfl, rfl, rfl⟩

theorem evaluationRecords_eq_append (rules : RuleSet) (document : Value) :
    rules.evaluationRecords document =
      ((rules.trail document).applied.map fun entry => .answered entry.1 entry.2) ++
        match rules.evaluate document with
        | .ok _ => []
        | .error mismatch => [.failed mismatch] := by
  rw [evaluationRecords_eq, Trail.records, evaluate]

theorem runFrom_buildLogged_of_ok {description : Json} {rules : RuleSet} (built : ofJson description = .ok rules)
    (before : List Record) :
    (buildLogged description).runFrom ⟨before, ()⟩ =
      (.ok rules, ⟨before ++ [.built rules.logic rules.count], ()⟩) := by
  rw [buildLogged, Logged.runFrom_bind, built, Logged.runFrom_liftExcept]
  rfl

theorem runFrom_buildLogged_of_error {description : Json} {error : BuildError}
    (failed : ofJson description = .error error) (before : List Record) :
    (buildLogged description).runFrom ⟨before, ()⟩ = (.error error, ⟨before, ()⟩) := by
  rw [buildLogged, Logged.runFrom_bind, failed, Logged.runFrom_liftExcept]

/-- A set is built under the logic that its description names, with as many conditions as it holds. -/
theorem described_of_ofJson {description : Json} {rules : RuleSet} (built : ofJson description = .ok rules) :
    ∃ key items, description = .object [(key, .array items)] ∧ rules.logic.NamedBy key ∧
      rules.count = description.conditionCount := by
  have mirrors : rules.toRule.Mirrors description := by
    rw [← Rule.ofJson_eq_ok_iff_mirrors, ← ofJson_eq_ok_iff]
    exact built
  have counts := mirrors.count_eq
  cases mirrors with
  | node named each => exact ⟨_, _, rfl, named, counts⟩

/-- The log tells what happened. Evaluating a set, for its answer or for a report, adds the same records, and
they account for the evaluation. Building adds one record, with the logic at the root of the description and the
number of conditions in the whole of it, exactly if it succeeds. -/
theorem log_faithful :
    (∀ (rules : RuleSet) (document : Value), ∃ answering answers failures,
      rules.AccountedBy document answering answers failures ∧
        ∀ before,
          (rules.evaluateLogged document).runFrom ⟨before, ()⟩ =
            (rules.evaluate document, ⟨before ++ (answers ++ failures), ()⟩) ∧
          ∃ outcomes, (rules.reportLogged document).runFrom ⟨before, []⟩ =
            (rules.report document, ⟨before ++ (answers ++ failures), outcomes⟩)) ∧
    ∀ (description : Json) (before : List Record),
      (∀ rules, ofJson description = .ok rules → ∃ key items record,
        description = .object [(key, .array items)] ∧ rules.logic.NamedBy key ∧
          record.TellsBuilt rules.logic description.conditionCount ∧
          (buildLogged description).runFrom ⟨before, ()⟩ = (.ok rules, ⟨before ++ [record], ()⟩)) ∧
      ∀ error, ofJson description = .error error →
        (buildLogged description).runFrom ⟨before, ()⟩ = (.error error, ⟨before, ()⟩) := by
  refine ⟨?_, ?_⟩
  · intro rules document
    refine ⟨_, _, _, accountedBy_trail, ?_⟩
    intro before
    rw [← evaluationRecords_eq_append]
    exact ⟨runFrom_evaluateLogged rules document before, _, runFrom_reportLogged rules document before⟩
  · intro description before
    refine ⟨?_, fun error failed => runFrom_buildLogged_of_error failed before⟩
    intro rules built
    obtain ⟨key, items, same, named, counts⟩ := described_of_ofJson built
    refine ⟨key, items, .built rules.logic rules.count, same, named, ?_, runFrom_buildLogged_of_ok built before⟩
    exact ⟨by rw [counts], rfl, by rw [← counts]; rfl⟩

end RuleSet

end Criteria
