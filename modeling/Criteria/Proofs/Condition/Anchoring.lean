import Criteria.Condition.Basic
import Criteria.Proofs.Pattern.Anchoring

/-!
Conditions with patterns. Such a condition holds for a text if the anchored first alternative of what is
read for its pattern matches, which it can only do from the first character on, or if one of the later
alternatives matches somewhere. A pattern that is an expression by itself has no later alternatives; one
whose parenthesis closes the group of the anchor can have some.
-/
namespace Criteria

open Pattern

theorem Pattern.source_of_ofText? {source : String} {pattern : Pattern} (read : Pattern.ofText? source = some pattern) :
    pattern.source = source := by
  unfold Pattern.ofText? at read
  split at read
  · cases read
    rfl
  · cases read

namespace Condition

variable {condition : Condition} {document : Value} {s : String}

theorem exists_pattern_of_regex (regex : condition.operator = .regex) :
    ∃ pattern : Pattern, condition.reference = .string pattern.source ∧ condition.test = .matching pattern := by
  have made := condition.made
  rw [regex] at made
  cases reference : condition.reference with
  | string source =>
    rw [reference, Test.make] at made
    split at made
    · rename_i pattern read
      have same := Pattern.source_of_ofText? read
      exact ⟨pattern, congrArg Value.string same.symm, (Except.ok.inj made).symm⟩
    · cases made
  | null | bool | int | float | list | map =>
    rw [reference] at made
    cases made

theorem evaluate_of_matching {pattern : Pattern} (test : condition.test = .matching pattern)
    (plain : condition.negated = false) (found : condition.path.resolve document = .string s) :
    condition.evaluate document = .ok (pattern.expr.matchesSomewhere s.toList) := by
  simp only [evaluate, found, test, Test.answer, Pattern.occursIn, plain, Bool.bne_false]

/-- What is found by the search: the anchored alternative from the first character on, or a later one anywhere. -/
theorem matchesSomewhere_iff_alternatives (pattern : Pattern) (text : List Char) :
    pattern.expr.matchesSomewhere text = true ↔
      (∃ j, Expr.Spans text pattern.expr 0 j) ∨
        ∃ later ∈ pattern.expr.alternatives.tail, ∃ i j, i ≤ text.length ∧ Expr.Spans text later i j := by
  obtain ⟨first, others, branches, anchored⟩ := Expr.alternatives_of_anchored pattern.reads
  rw [Expr.matchesSomewhere_iff (Expr.bounded_of_ofChars? pattern.reads)]
  constructor
  · intro somewhere
    obtain ⟨i, j, inside, spans⟩ := somewhere
    obtain ⟨branch, member, taken⟩ := (Expr.spans_iff_alternatives pattern.expr i j).1 spans
    rw [branches] at member
    obtain rfl | later := List.mem_cons.1 member
    · obtain rfl := anchored text i j inside taken
      exact .inl ⟨j, spans⟩
    · rw [branches]
      exact .inr ⟨branch, later, i, j, inside, taken⟩
  · intro found
    obtain ⟨j, spans⟩ | ⟨later, member, i, j, inside, taken⟩ := found
    · exact ⟨0, j, Nat.zero_le _, spans⟩
    · have spans := (Expr.spans_iff_alternatives pattern.expr i j).2 ⟨later, List.mem_of_mem_tail member, taken⟩
      exact ⟨i, j, inside, spans⟩

/-- The search for a pattern that consists of the anchor and one expression finds what this expression matches from
the first character on. -/
theorem matchesSomewhere_iff_own {pattern : Pattern} {own : Expr}
    (same : pattern.expr = .sequence (.look .textStart) own) (text : List Char) :
    pattern.expr.matchesSomewhere text = true ↔ ∃ j, Expr.Spans text own 0 j := by
  have start : Expr.Spans text (.look .textStart) 0 0 := .look rfl
  rw [Expr.matchesSomewhere_iff (Expr.bounded_of_ofChars? pattern.reads), same]
  simp only [Expr.spans_sequence_iff]
  constructor
  · intro somewhere
    obtain ⟨i, j, inside, k, anchor, spans⟩ := somewhere
    obtain rfl := Grammar.anchored_look text i k inside anchor
    obtain ⟨rfl, -⟩ := Expr.spans_look_iff.1 anchor
    exact ⟨j, spans⟩
  · intro matched
    obtain ⟨j, spans⟩ := matched
    exact ⟨0, j, Nat.zero_le _, 0, start, spans⟩

/-- A condition with a pattern holds for a text exactly if a match starts at its first character or a later
alternative, which the anchor does not govern, matches anywhere; a pattern that is an expression by itself is
anchored as a whole, and the condition holds exactly if this expression matches from the first character on. -/
theorem regex_holds_iff (regex : condition.operator = .regex) (plain : condition.negated = false)
    (found : condition.path.resolve document = .string s) :
    ∃ pattern : Pattern, condition.reference = .string pattern.source ∧ condition.test = .matching pattern ∧
      (condition.evaluate document = .ok true ↔
        (∃ j, Expr.Spans s.toList pattern.expr 0 j) ∨
          ∃ later ∈ pattern.expr.alternatives.tail, ∃ i j, i ≤ s.toList.length ∧ Expr.Spans s.toList later i j) ∧
      ∀ own, Expr.ofChars? pattern.source.toList = some own →
        pattern.expr = .sequence (.look .textStart) own ∧
          (condition.evaluate document = .ok true ↔ ∃ j, Expr.Spans s.toList own 0 j) := by
  obtain ⟨pattern, source, test⟩ := exists_pattern_of_regex regex
  have answer := evaluate_of_matching test plain found
  refine ⟨pattern, source, test, ?_, ?_⟩
  · rw [answer, Except.ok.injEq]
    exact matchesSomewhere_iff_alternatives pattern s.toList
  · intro own alone
    have same := Expr.eq_of_ofChars?_anchored alone pattern.reads
    rw [answer, Except.ok.injEq]
    exact ⟨same, matchesSomewhere_iff_own same s.toList⟩

def eitherLetter : Expr := .choice (.one (.single 'a')) (.one (.single 'b'))

def startsEither : Condition :=
  ⟨⟨"s", by decide⟩, .regex, .string "a|b", false, .matching ⟨"a|b", .sequence (.look .textStart) eitherLetter, rfl⟩,
    rfl, rfl, rfl⟩

theorem regex_holds_iff_either :
    startsEither.operator = .regex ∧ startsEither.negated = false ∧
      startsEither.path.resolve (.map [("s", .string "bx")]) = .string "bx" ∧
      startsEither.evaluate (.map [("s", .string "bx")]) = .ok true := by
  have regex : startsEither.operator = .regex := rfl
  have plain : startsEither.negated = false := rfl
  have found : startsEither.path.resolve (.map [("s", .string "bx")]) = .string "bx" := by rfl
  obtain ⟨pattern, source, -, -, own⟩ := regex_holds_iff regex plain found
  have alone : Expr.ofChars? pattern.source.toList = some eitherLetter := by
    rw [← Value.string.inj source]
    rfl
  have spans : Expr.Spans "bx".toList eitherLetter 0 1 := .right (.one rfl (by decide))
  exact ⟨regex, plain, found, (own eitherLetter alone).2.2 ⟨1, spans⟩⟩

/-- A pattern that closes the group of the anchor, so that its second alternative is not anchored. -/
def loosePattern : Pattern :=
  ⟨"a)|(b", .choice (.sequence (.look .textStart) (.one (.single 'a'))) (.one (.single 'b')), rfl⟩

def loose : Condition :=
  ⟨⟨"s", by decide⟩, .regex, .string "a)|(b", false, .matching loosePattern, rfl, rfl, rfl⟩

/-- A condition with a pattern can hold for a text in which no match starts at the first character. -/
theorem not_all_patterns_anchored :
    ¬ ∀ (condition : Condition) (pattern : Pattern) (document : Value) (s : String),
      condition.operator = .regex → condition.negated = false → condition.test = .matching pattern →
        condition.path.resolve document = .string s → condition.evaluate document = .ok true →
          ∃ j, Expr.Spans s.toList pattern.expr 0 j := by
  intro anchored
  have holds : loose.evaluate (.map [("s", .string "xb")]) = .ok true := by rfl
  have start := anchored loose loosePattern (.map [("s", .string "xb")]) "xb" rfl rfl rfl rfl holds
  rw [← Expr.matchesAtStart_iff (Expr.bounded_of_ofChars? loosePattern.reads)] at start
  exact absurd start (by decide)

end Condition

end Criteria
