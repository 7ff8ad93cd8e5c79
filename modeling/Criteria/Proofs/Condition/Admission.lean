import Criteria.Proofs.Condition.Faults
import Criteria.Proofs.Pattern.Acceptance

/-!
Which patterns a condition takes. The text that is given is read inside a group, so what is taken is not exactly what
is an expression by itself: a comment that the text leaves open hides the parenthesis of the group, and a parenthesis
of the text can close the group before its end. A text that is not taken is reported as it was given.
-/
namespace Criteria

open Pattern

namespace Condition

theorem make_regex_eq_error_iff (path : Path) (source : String) (negated : Bool) (error : BuildError) :
    make path.text (.string source) .regex negated = .error error ↔
      ¬ Reads source ∧ error = .invalidPattern source := by
  have accepted : Operator.regex.accepts (Value.string source).kind = true := rfl
  have parsed := (Path.ofText?_eq_some_iff path.text path).2 rfl
  have refusal := Test.make_eq_error_iff accepted error
  have same : make path.text (.string source) .regex negated = .error error ↔
      Test.make .regex (.string source) = .error error := by
    unfold make
    split
    · rename_i unsupported
      cases unsupported
    · rw [dif_pos accepted, parsed]
      simp only
      split
      · rename_i failed
        rw [failed, Except.error.injEq, Except.error.injEq]
      · rename_i made
        constructor
        · intro same
          cases same
        · intro failed
          cases made.symm.trans failed
  rw [same, refusal]
  constructor
  · intro refused
    obtain ⟨-, other, given, unreadable, reported⟩ := refused
    cases given
    exact ⟨unreadable, reported.symm⟩
  · intro refused
    obtain ⟨unreadable, reported⟩ := refused
    exact ⟨rfl, source, rfl, unreadable, reported.symm⟩

theorem exists_make_regex_iff (path : Path) (source : String) (negated : Bool) :
    (∃ condition, make path.text (.string source) .regex negated = .ok condition) ↔ Reads source := by
  rw [exists_make_iff]
  constructor
  · intro passed
    obtain ⟨other, given, reads⟩ := passed.2.2.2 rfl
    cases given
    exact reads
  · intro reads
    exact ⟨path.nonempty, rfl, rfl, fun _ => ⟨source, rfl, reads⟩⟩

/-- A condition with a pattern is made exactly if the pattern is an expression by itself that leaves no comment open,
or closes the group it is put into, before a text that is read behind the group; only the latter are no expressions by
themselves, and they start with one. The condition keeps what it was made of, and otherwise the pattern is reported
as it was given. -/
theorem regex_admission (path : Path) (source : String) (negated : Bool) :
    ((∃ condition, make path.text (.string source) .regex negated = .ok condition) ↔
        (IsExpr source.toList ∧ ¬ IsExpr (closed source.toList)) ∨ ClosesGroup source.toList) ∧
      (ClosesGroup source.toList → ¬ IsExpr source.toList ∧
        ∃ front rest, source.toList = front ++ ')' :: rest ∧ IsExpr front) ∧
      (∀ condition, make path.text (.string source) .regex negated = .ok condition →
        condition.path = path ∧ condition.operator = .regex ∧ condition.reference = .string source ∧
          condition.negated = negated) ∧
      ∀ error, make path.text (.string source) .regex negated = .error error → error = .invalidPattern source := by
  refine ⟨?_, ?_, ?_, ?_⟩
  · rw [exists_make_regex_iff]
    exact isExpr_anchored_iff_own
  · intro closes
    exact ⟨not_isExpr_of_closesGroup closes, exists_isExpr_of_closesGroup closes⟩
  · intro condition made
    obtain ⟨subject, reference, operator, negation⟩ := (make_eq_ok_iff _ _ _ _ _).1 made
    have parsed := (Path.ofText?_eq_some_iff path.text condition.path).2 subject
    have own := (Path.ofText?_eq_some_iff path.text path).2 rfl
    exact ⟨Option.some.inj (parsed.symm.trans own), operator, reference, negation⟩
  · intro error failed
    exact ((make_regex_eq_error_iff path source negated error).1 failed).2

/-- A text that closes the group, and is taken though it is no expression by itself. -/
def closing : String := "a)|(b"

/-- An expression by itself that leaves a comment open, and is not taken. -/
def commenting : String := "(?x)a #c"

/-- It is not so that a pattern is taken exactly if it is an expression by itself; each direction fails. -/
theorem not_admission_by_itself :
    (¬ ∀ (path : Path) (source : String) (negated : Bool),
      (∃ condition, make path.text (.string source) .regex negated = .ok condition) → IsExpr source.toList) ∧
    ¬ ∀ (path : Path) (source : String) (negated : Bool),
      IsExpr source.toList → ∃ condition, make path.text (.string source) .regex negated = .ok condition := by
  have foreign : (Expr.ofChars? closing.toList).isSome = false := by rfl
  have read : (Expr.ofChars? (anchored closing.toList)).isSome = true := by rfl
  have own : (Expr.ofChars? commenting.toList).isSome = true := by rfl
  have unread : (Expr.ofChars? (anchored commenting.toList)).isSome = false := by rfl
  constructor
  · intro sound
    have taken := (exists_make_regex_iff ⟨"s", by decide⟩ closing false).2 (Option.isSome_iff_exists.1 read)
    have found := Option.isSome_iff_exists.2 (sound ⟨"s", by decide⟩ closing false taken)
    rw [foreign] at found
    cases found
  · intro complete
    have taken := complete ⟨"s", by decide⟩ commenting false (Option.isSome_iff_exists.1 own)
    have found := Option.isSome_iff_exists.2 ((exists_make_regex_iff _ commenting false).1 taken)
    rw [unread] at found
    cases found

end Condition

end Criteria
