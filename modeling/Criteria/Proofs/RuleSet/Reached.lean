import Criteria.Proofs.RuleSet.Positions
import Criteria.RuleSet.Report
import Mathlib.Data.List.Forall2

/-!
Which conditions an evaluation asks. A condition is reached if in every set above it each earlier rule,
asked on its own, gives the answer that lets the set go on. An evaluation asks exactly the reached
conditions, from left to right; it fails if and only if one of them fails, and that one is the last.
-/
namespace Criteria

namespace Rule

/-- In every set on the way to the position each earlier rule, asked on its own, gives the neutral answer
of the set. -/
def Reached (document : Value) (root : Rule) (position : Position) : Prop :=
  ∀ above turn below, position = above ++ turn :: below →
    ∀ logic children, root.at? above = some (.node logic children) →
      ∀ earlier ∈ children.take turn, earlier.evaluate document = .ok logic.neutral

variable {document : Value} {logic : Logic}

theorem reached_nil (root : Rule) : Reached document root [] := by
  intro above turn below same
  simp at same

/-- Reaching a position inside a set means passing the earlier rules of the set and reaching the rest of
the position inside the rule that holds it. -/
theorem reached_cons_iff {children : List Rule} {turn : Nat} {child : Rule}
    (found : children[turn]? = some child) (below : Position) :
    Reached document (.node logic children) (turn :: below) ↔
      (∀ earlier ∈ children.take turn, earlier.evaluate document = .ok logic.neutral) ∧
        Reached document child below := by
  constructor
  · intro reached
    refine ⟨reached [] turn below rfl logic children rfl, ?_⟩
    intro above number rest same innerLogic inner stands
    exact reached (turn :: above) number rest (by rw [same]; rfl) innerLogic inner
      (by rw [at?_cons_node, found]; exact stands)
  · rintro ⟨passed, reached⟩ above number rest same otherLogic others stands
    cases above with
    | nil =>
      obtain ⟨rfl, rfl⟩ := List.cons.inj same
      obtain ⟨rfl, rfl⟩ := Rule.node.inj (Option.some.inj stands)
      exact passed
    | cons first above =>
      obtain ⟨rfl, rfl⟩ := List.cons.inj same
      rw [at?_cons_node, found] at stands
      exact reached above number rest rfl otherLogic others stands

open Classical in
noncomputable def reachedLeaves (document : Value) (root : Rule) : List (Position × Condition) :=
  root.leaves.filter fun leaf => Reached document root leaf.1

open Classical in
noncomputable def reachedFrom (document : Value) (root : Rule) (first : Nat) (rest : List Rule) :
    List (Position × Condition) :=
  (leavesFrom first rest).filter fun leaf => Reached document root leaf.1

@[simp] theorem reachedLeaves_leaf (condition : Condition) :
    reachedLeaves document (.leaf condition) = [([], condition)] := by
  simp [reachedLeaves, reached_nil]

theorem reachedLeaves_node (children : List Rule) :
    reachedLeaves document (.node logic children) = reachedFrom document (.node logic children) 0 children := by
  rw [reachedLeaves, leaves_node, reachedFrom]

theorem mem_reachedLeaves_iff (root : Rule) (position : Position) (condition : Condition) :
    (position, condition) ∈ reachedLeaves document root ↔
      root.at? position = some (.leaf condition) ∧ Reached document root position := by
  simp [reachedLeaves, mem_leaves_iff]

theorem reachedLeaves_increasing (root : Rule) :
    (reachedLeaves document root).Pairwise (fun left right => left.1 < right.1) :=
  (leaves_increasing root).filter _

theorem reachedLeaves_length_le (root : Rule) : (reachedLeaves document root).length ≤ root.count := by
  rw [count_eq_length]
  exact List.length_filter_le _ _

theorem reachedFrom_blocked {before : List Rule} {rule : Rule} (rest : List Rule)
    (blocked : rule.evaluate document ≠ .ok logic.neutral) :
    reachedFrom document (.node logic (before ++ rule :: rest)) (before.length + 1) rest = [] := by
  refine List.filter_eq_nil_iff.2 ?_
  rintro ⟨position, condition⟩ member reached
  obtain ⟨turn, child, below, found, rfl, -⟩ := (mem_leavesFrom_iff _ _ _ _).1 member
  have place : (before ++ rule :: rest)[before.length + 1 + turn]? = some child := by
    rw [List.getElem?_append_right (by omega)]
    simpa [show before.length + 1 + turn - before.length = turn + 1 by omega] using found
  have passed := ((reached_cons_iff place below).1 (by simpa using reached)).1
  exact blocked (passed rule (by simp [List.take_append, show before.length + 1 + turn - before.length =
    turn + 1 by omega]))

theorem reachedFrom_cons {before : List Rule} (rule : Rule) (rest : List Rule)
    (passed : ∀ earlier ∈ before, earlier.evaluate document = .ok logic.neutral) :
    reachedFrom document (.node logic (before ++ rule :: rest)) before.length (rule :: rest) =
      (reachedLeaves document rule).map (under before.length) ++
        reachedFrom document (.node logic (before ++ rule :: rest)) (before.length + 1) rest := by
  rw [reachedFrom, reachedFrom, reachedLeaves, leavesFrom_cons, List.filter_append, List.filter_map]
  congr 2
  refine List.filter_congr ?_
  intro leaf _
  have place : (before ++ rule :: rest)[before.length]? = some rule := by simp
  have inside : Reached document (.node logic (before ++ rule :: rest)) (before.length :: leaf.1) ↔
      Reached document rule leaf.1 := by
    rw [reached_cons_iff place, List.take_left, and_iff_right passed]
  exact decide_eq_decide.2 inside

end Rule

def Answered (document : Value) (condition : Condition) (entry : Condition × Bool) : Prop :=
  entry.1 = condition ∧ condition.evaluate document = .ok entry.2

/-- The trail records the own answers of the asked conditions, one after the other; if it ends in a
failure, that is the failure of the last of them, which has no entry. -/
def Trail.Tells (trail : Trail) (document : Value) (asked : List Condition) : Prop :=
  match trail.ending with
  | .ok _ => List.Forall₂ (Answered document) asked trail.applied
  | .error mismatch => ∃ before last, asked = before ++ [last] ∧
      List.Forall₂ (Answered document) before trail.applied ∧ last.evaluate document = .error mismatch

theorem Trail.Tells.after {trail : Trail} {document : Value} {asked earlier : List Condition}
    {applied : List (Condition × Bool)} (tells : trail.Tells document asked)
    (answered : List.Forall₂ (Answered document) earlier applied) :
    (Trail.after applied trail).Tells document (earlier ++ asked) := by
  obtain ⟨entries, ending⟩ := trail
  cases ending with
  | ok answer => exact List.rel_append answered tells
  | error mismatch =>
    obtain ⟨before, last, rfl, rest, failure⟩ := tells
    exact ⟨earlier ++ before, last, (List.append_assoc _ _ _).symm, List.rel_append answered rest, failure⟩

namespace Rule

variable {document : Value} {logic : Logic}

theorem conditions_reachedFrom_cons {before : List Rule} (rule : Rule) (rest : List Rule)
    (passed : ∀ earlier ∈ before, earlier.evaluate document = .ok logic.neutral) :
    (reachedFrom document (.node logic (before ++ rule :: rest)) before.length (rule :: rest)).map Prod.snd =
      (reachedLeaves document rule).map Prod.snd ++
        (reachedFrom document (.node logic (before ++ rule :: rest)) (before.length + 1) rest).map Prod.snd := by
  have forget : Prod.snd ∘ under before.length = Prod.snd := rfl
  rw [reachedFrom_cons rule rest passed, List.map_append, List.map_map, forget]

/-- One set: if every rule tells what is reached in it, so do the rules of the set together. -/
theorem trailAll_tells (rest : List Rule) (before : List Rule)
    (each : ∀ rule ∈ rest, (rule.trail document).Tells document ((reachedLeaves document rule).map Prod.snd))
    (passed : ∀ earlier ∈ before, earlier.evaluate document = .ok logic.neutral) :
    (trailAll document logic rest).Tells document
      ((reachedFrom document (.node logic (before ++ rest)) before.length rest).map Prod.snd) := by
  induction rest generalizing before with
  | nil => simp [trailAll, reachedFrom, Trail.Tells]
  | cons rule rest ih =>
    have first := each rule List.mem_cons_self
    have others := fun other member => each other (List.mem_cons_of_mem rule member)
    rw [conditions_reachedFrom_cons rule rest passed, trailAll]
    -- Either the first rule ends the evaluation, and nothing behind it is reached, or it is passed.
    cases ending : (rule.trail document).ending with
    | error mismatch =>
      have blocked : rule.evaluate document ≠ .ok logic.neutral := by simp [evaluate, ending]
      simpa [reachedFrom_blocked rest blocked] using first
    | ok answer =>
      by_cases neutral : answer = logic.neutral
      · have goesOn : rule.evaluate document = .ok logic.neutral := by rw [evaluate, ending, neutral]
        have later := ih (before ++ [rule]) others (by
          intro earlier member
          rcases List.mem_append.1 member with old | new
          · exact passed earlier old
          · exact List.mem_singleton.1 new ▸ goesOn)
        have answered : List.Forall₂ (Answered document) ((reachedLeaves document rule).map Prod.snd)
            (rule.trail document).applied := by
          simpa [Trail.Tells, ending] using first
        simp only [if_pos neutral]
        simpa using later.after answered
      · have blocked : rule.evaluate document ≠ .ok logic.neutral := by
          rw [evaluate, ending]
          exact fun same => neutral (Except.ok.inj same)
        simpa [reachedFrom_blocked rest blocked, neutral] using first

/-- An evaluation asks exactly the reached conditions, from left to right. -/
theorem trail_tells (document : Value) (rule : Rule) :
    (rule.trail document).Tells document ((reachedLeaves document rule).map Prod.snd) := by
  induction rule with
  | leaf condition =>
    rw [reachedLeaves_leaf, trail]
    cases own : condition.evaluate document with
    | ok answer => exact .cons ⟨rfl, own⟩ .nil
    | error mismatch => exact ⟨[], condition, rfl, .nil, own⟩
  | node logic children ih =>
    rw [reachedLeaves_node, trail]
    exact trailAll_tells children [] ih (by simp)

end Rule

theorem answers_of_answered {document : Value} {asked : List Condition} {applied : List (Condition × Bool)}
    (answered : List.Forall₂ (Answered document) asked applied) :
    ∀ condition ∈ asked, ∃ answer, condition.evaluate document = .ok answer := by
  induction answered with
  | nil => simp
  | cons own _ ih =>
    intro condition member
    rcases List.mem_cons.1 member with rfl | later
    · exact ⟨_, own.2⟩
    · exact ih condition later

namespace RuleSet

variable {rules : RuleSet} {document : Value}

def Reports (document : Value) (leaf : Rule.Position × Condition) (outcome : Outcome) : Prop :=
  outcome.subject = leaf.2.subject ∧ outcome.operator = leaf.2.operator ∧
    outcome.negated = leaf.2.negated ∧ leaf.2.evaluate document = .ok outcome.result

theorem reports_of_answered {reached : List (Rule.Position × Condition)} {applied : List (Condition × Bool)}
    (answered : List.Forall₂ (Answered document) (reached.map Prod.snd) applied) :
    List.Forall₂ (Reports document) reached (applied.map Outcome.ofAnswer) := by
  rw [List.forall₂_map_left_iff] at answered
  rw [List.forall₂_map_right_iff]
  refine answered.imp ?_
  rintro leaf entry ⟨same, own⟩
  exact ⟨congrArg Condition.subject same, congrArg Condition.operator same,
    congrArg Condition.negated same, own⟩

/-- In a failed evaluation all reached conditions but the last answer, and the last one fails. -/
theorem reached_of_error {mismatch : Mismatch} (failed : rules.evaluate document = .error mismatch) :
    ∃ before last, Rule.reachedLeaves document rules.toRule = before ++ [last] ∧
      last.2.evaluate document = .error mismatch ∧
      ∀ leaf ∈ before, ∃ answer, leaf.2.evaluate document = .ok answer := by
  have tells := Rule.trail_tells document rules.toRule
  have ending : (rules.toRule.trail document).ending = .error mismatch := failed
  simp only [Trail.Tells, ending] at tells
  obtain ⟨asked, last, split, answered, failure⟩ := tells
  obtain ⟨before, ends, reached, rfl, single⟩ := List.map_eq_append_iff.1 split
  obtain ⟨leaf, rfl, rfl⟩ := List.map_eq_singleton_iff.1 single
  refine ⟨before, leaf, reached, failure, ?_⟩
  intro earlier member
  exact answers_of_answered answered earlier.2 (List.mem_map_of_mem member)

theorem answered_of_ok {answer : Bool} (ended : rules.evaluate document = .ok answer) :
    List.Forall₂ (Answered document) ((Rule.reachedLeaves document rules.toRule).map Prod.snd)
      (rules.trail document).applied := by
  have tells := Rule.trail_tells document rules.toRule
  have ending : (rules.toRule.trail document).ending = .ok answer := ended
  simp only [Trail.Tells, ending] at tells
  exact tells

theorem error_iff_reached_fails :
    (∃ mismatch, rules.evaluate document = .error mismatch) ↔
      ∃ leaf ∈ Rule.reachedLeaves document rules.toRule, ∃ mismatch,
        leaf.2.evaluate document = .error mismatch := by
  constructor
  · rintro ⟨mismatch, failed⟩
    obtain ⟨before, last, reached, failure, -⟩ := reached_of_error failed
    exact ⟨last, by simp [reached], mismatch, failure⟩
  · rintro ⟨leaf, member, mismatch, failure⟩
    cases ended : rules.evaluate document with
    | error other => exact ⟨other, rfl⟩
    | ok answer =>
      obtain ⟨own, answers⟩ := answers_of_answered (answered_of_ok ended) leaf.2 (List.mem_map_of_mem member)
      rw [failure] at answers
      cases answers

/-- An evaluation and its report are accounted for by the reached conditions. -/
theorem evaluation_asks_reached (rules : RuleSet) (document : Value) :
    ∃ reached : List (Rule.Position × Condition),
      reached.Pairwise (fun left right => left.1 < right.1) ∧
      (∀ position condition, (position, condition) ∈ reached ↔
        rules.toRule.at? position = some (.leaf condition) ∧
          Rule.Reached document rules.toRule position) ∧
      ((∃ mismatch, rules.evaluate document = .error mismatch) ↔
        ∃ leaf ∈ reached, ∃ mismatch, leaf.2.evaluate document = .error mismatch) ∧
      (∀ mismatch, rules.evaluate document = .error mismatch →
        rules.report document = .error mismatch ∧
          ∃ before last, reached = before ++ [last] ∧ last.2.evaluate document = .error mismatch ∧
            ∀ leaf ∈ before, ∃ answer, leaf.2.evaluate document = .ok answer) ∧
      ∀ answer, rules.evaluate document = .ok answer →
        ∃ outcomes, rules.report document = .ok ⟨answer, outcomes⟩ ∧
          List.Forall₂ (Reports document) reached outcomes ∧ outcomes.length ≤ rules.count := by
  refine ⟨Rule.reachedLeaves document rules.toRule, Rule.reachedLeaves_increasing _,
    Rule.mem_reachedLeaves_iff _, error_iff_reached_fails, ?_, ?_⟩
  · intro mismatch failed
    exact ⟨report_of_error failed, reached_of_error failed⟩
  · intro answer ended
    have outcomes := reports_of_answered (answered_of_ok ended)
    refine ⟨_, report_of_ok ended, outcomes, ?_⟩
    rw [← outcomes.length_eq]
    exact Rule.reachedLeaves_length_le _

end RuleSet

end Criteria
