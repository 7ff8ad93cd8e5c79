import Criteria.Pattern.Escape

/-!
Texts that go on. A closing parenthesis and more stands behind a text, and what comes next in the whole, after blanks
and comments, is what comes next in the text, unless the text has come to its end: then it is the parenthesis or, where
the text leaves a comment open, something behind it.
-/
namespace Criteria.Pattern

def continued (text more : List Char) : List Char := text ++ ')' :: more

@[simp] theorem continued_nil (more : List Char) : continued [] more = ')' :: more := rfl

@[simp] theorem continued_cons (c : Char) (text more : List Char) :
    continued (c :: text) more = c :: continued text more := rfl

@[simp] theorem length_continued (text more : List Char) :
    (continued text more).length = text.length + more.length + 1 := by
  simp [continued, Nat.add_assoc]

theorem exists_of_continued_eq_cons {text more rest : List Char} {c : Char} (other : c ≠ ')')
    (starts : continued text more = c :: rest) : ∃ others, text = c :: others ∧ rest = continued others more := by
  cases text with
  | nil =>
    cases starts
    exact absurd rfl other
  | cons d text =>
    cases starts
    exact ⟨text, rfl, rfl⟩

theorem starts_of_continued {text more : List Char} {c : Char}
    (starts : ∀ rest, continued text more = c :: rest → False) : ∀ rest, text = c :: rest → False :=
  fun rest same => starts (continued rest more) (by rw [same, continued_cons])

theorem starts_two_of_continued {text more : List Char} {c d : Char}
    (starts : ∀ rest, continued text more = c :: d :: rest → False) : ∀ rest, text = c :: d :: rest → False :=
  fun rest same => starts (continued rest more) (by rw [same, continued_cons, continued_cons])

section Scans

variable {test : Char → Bool} {text rest : List Char} {c : Char}

theorem dropWhile_continued (more : List Char) (found : text.dropWhile test = c :: rest) :
    (continued text more).dropWhile test = c :: continued rest more := by
  rw [continued, List.dropWhile_append, found]
  rfl

theorem dropWhile_continued_of_nil (more : List Char) (passed : text.dropWhile test = []) :
    (continued text more).dropWhile test = (')' :: more).dropWhile test := by
  rw [continued, List.dropWhile_append, passed]
  rfl

theorem takeWhile_continued (more : List Char) (found : text.dropWhile test = c :: rest) :
    (continued text more).takeWhile test = text.takeWhile test := by
  have split := congrArg List.length (List.takeWhile_append_dropWhile (p := test) (l := text))
  rw [found, List.length_append, List.length_cons] at split
  rw [continued, List.takeWhile_append, if_neg (by omega)]

end Scans

theorem isWhiteSpace_parenthesis : Unicode.isWhiteSpace ')' = false := by decide

theorem dropWhile_parenthesis (more : List Char) : (')' :: more).dropWhile Unicode.isWhiteSpace = ')' :: more :=
  List.dropWhile_cons_of_neg (by simp [isWhiteSpace_parenthesis])

theorem suffix_cons_trans {c : Char} {left rest text : List Char} (behind : left <:+ rest)
    (whole : c :: rest <:+ text) : left <:+ text :=
  (behind.trans (List.suffix_cons c rest)).trans whole

/-- What comes next where a text has come to its end: the parenthesis, or something behind it. -/
def Past (more ahead : List Char) : Prop := ahead = ')' :: more ∨ ahead <:+ more

theorem Past.behind {more others : List Char} {c : Char} (past : Past more (c :: others)) : others <:+ more := by
  obtain same | inside := past
  · obtain ⟨rfl, rfl⟩ := List.cons.inj same
    exact List.suffix_rfl
  · exact (List.suffix_cons c others).trans inside

namespace Modes

theorem skip_nil (modes : Modes) : modes.skip [] = [] := by
  unfold skip
  split <;> rfl

theorem skipFrom_suffix (comment : Bool) (text : List Char) : skipFrom comment text <:+ text := by
  induction text generalizing comment with
  | nil => cases comment <;> exact List.suffix_rfl
  | cons first text ih =>
    cases comment with
    | true => exact (ih _).trans (List.suffix_cons first text)
    | false =>
      rw [skipFrom]
      split
      · exact (ih _).trans (List.suffix_cons first text)
      · split
        · exact (ih _).trans (List.suffix_cons first text)
        · exact List.suffix_rfl

theorem skip_suffix (modes : Modes) (text : List Char) : modes.skip text <:+ text := by
  unfold skip
  split
  · exact skipFrom_suffix false text
  · exact List.suffix_rfl

theorem ahead_suffix {modes : Modes} {text ahead : List Char} (skipped : modes.skip text = ahead) : ahead <:+ text :=
  skipped ▸ skip_suffix modes text

theorem length_lt_of_ahead {modes : Modes} {text rest : List Char} {c : Char} (ahead : modes.skip text = c :: rest) :
    rest.length < text.length := by
  have inside := (ahead_suffix ahead).length_le
  rw [List.length_cons] at inside
  exact inside

theorem skipFrom_continued (comment : Bool) (text more : List Char) :
    (∃ c rest, skipFrom comment text = c :: rest ∧
      skipFrom comment (continued text more) = c :: continued rest more) ∨
    skipFrom comment text = [] ∧ Past more (skipFrom comment (continued text more)) := by
  induction text generalizing comment with
  | nil =>
    refine .inr ⟨by cases comment <;> rfl, ?_⟩
    cases comment with
    | true => exact .inr (skipFrom_suffix _ more)
    | false => exact .inl (by simp [skipFrom, isWhiteSpace_parenthesis])
  | cons first text ih =>
    cases comment with
    | true => exact ih _
    | false =>
      simp only [continued_cons, skipFrom]
      split
      · exact ih _
      · split
        · exact ih _
        · exact .inl ⟨first, text, rfl, rfl⟩

/-- What comes next in a continued text comes next in the text, unless that has come to its end. -/
theorem skip_continued (modes : Modes) (text more : List Char) :
    (∃ c rest, modes.skip text = c :: rest ∧ modes.skip (continued text more) = c :: continued rest more) ∨
    modes.skip text = [] ∧ Past more (modes.skip (continued text more)) := by
  unfold skip
  split
  · exact skipFrom_continued false text more
  · cases text with
    | nil => exact .inr ⟨rfl, .inl rfl⟩
    | cons first text => exact .inl ⟨first, text, rfl, rfl⟩

/-- Passing over blanks and comments leaves the continuation as it is, or takes the parenthesis as well. -/
theorem skip_cut (modes : Modes) (text more : List Char) :
    modes.skip (continued text more) = continued (modes.skip text) more ∨
      modes.skip (continued text more) <:+ more := by
  obtain ⟨c, rest, ahead, aheadWhole⟩ | ⟨none, same | past⟩ := modes.skip_continued text more
  · exact .inl (by rw [ahead, aheadWhole, continued_cons])
  · exact .inl (by rw [none, same, continued_nil])
  · exact .inr past

theorem skip_of_shown {modes : Modes} {c : Char} (noBlank : Unicode.isWhiteSpace c = false) (noMark : c ≠ '#')
    (rest : List Char) : modes.skip (c :: rest) = c :: rest := by
  unfold skip
  split
  · simp only [skipFrom, noBlank, Bool.false_eq_true, if_false, if_neg noMark]
  · rfl

end Modes

end Criteria.Pattern
