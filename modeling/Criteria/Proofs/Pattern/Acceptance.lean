import Criteria.Proofs.Pattern.Anchoring
import Criteria.Proofs.Pattern.Cutting.Grammar

/-!
Which texts can be read as patterns. A text is read inside a group, and its parenthesis is put behind the text. So an
expression by itself is refused if an open comment at its end takes the parenthesis in; and a text that is no
expression by itself is read if one of its own parentheses closes the group, what stands before that is an expression,
and what stands behind it goes on from there up to the added parenthesis.
-/
namespace Criteria.Pattern

def IsExpr (source : List Char) : Prop := ∃ expr, Expr.ofChars? source = some expr

/-- Behind the group of a pattern, a text is read up to its end. The anchor and the group are parts already, names
in the group are taken, and modes set in it are set no more. -/
def ReadsBehind (inner : Expr) (names : List (List Char)) (text : List Char) : Prop :=
  ∃ expr modes names',
    Grammar.body? (text.length + 1) [] [⟨inner, true⟩, ⟨.look .textStart, true⟩] ⟨text, .initial, names⟩ =
      some (expr, ⟨[], modes, names'⟩)

/-- A parenthesis of the text closes the group that the text is put into, and what follows is read behind the group. -/
def ClosesGroup (source : List Char) : Prop :=
  ∃ inner rest modes names,
    Grammar.body? (source.length + 1) [] [] ⟨source, .initial, []⟩ = some (inner, ⟨')' :: rest, modes, names⟩) ∧
      ReadsBehind inner names (closed rest)

theorem Expr.ofChars?_eq_some_iff {text : List Char} {expr : Expr} :
    ofChars? text = some expr ↔ ∃ modes names,
      Grammar.body? (text.length + 1) [] [] ⟨text, .initial, []⟩ = some (expr, ⟨[], modes, names⟩) := by
  unfold ofChars?
  constructor
  · intro read
    split at read
    · rename_i modes names result
      cases read
      exact ⟨modes, names, result⟩
    · cases read
  · intro read
    obtain ⟨modes, names, read⟩ := read
    rw [read]

theorem isExpr_iff {text : List Char} :
    IsExpr text ↔ ∃ expr modes names,
      Grammar.body? (text.length + 1) [] [] ⟨text, .initial, []⟩ = some (expr, ⟨[], modes, names⟩) := by
  simp only [IsExpr, Expr.ofChars?_eq_some_iff]

/-- Behind the anchor a text is read as a group, and then on from the parenthesis that closes the group. -/
theorem isExpr_anchored_iff {source : List Char} :
    IsExpr (anchored source) ↔ ∃ inner rest modes names,
      Grammar.body? (source.length + 2) [] [] ⟨closed source, .initial, []⟩ =
          some (inner, ⟨')' :: rest, modes, names⟩) ∧
        ReadsBehind inner names rest := by
  constructor
  · intro read
    obtain ⟨expr, modes, names, whole⟩ := isExpr_iff.1 read
    rw [Expr.length_anchored] at whole
    obtain ⟨inner, rest, insideModes, insideNames, group, others⟩ := Grammar.read_anchored whole
    have fits : (closed source).length < source.length + 2 := by simp
    exact ⟨inner, rest, insideModes, insideNames, Grammar.body?_of_enough fits group, expr, modes, names,
      Grammar.body?_of_enough (Nat.lt_succ_self _) others⟩
  · intro read
    obtain ⟨inner, rest, insideModes, insideNames, group, expr, modes, names, others⟩ := read
    refine isExpr_iff.2 ⟨expr, modes, names, ?_⟩
    have anchor : Grammar.Move (source.length + 6) ⟨[], [], ⟨anchored source, .initial, []⟩⟩
        ⟨[], [⟨.look .textStart, true⟩], ⟨'(' :: '?' :: ':' :: closed source, .initial, []⟩⟩ :=
      .primitive rfl (by decide) rfl rfl
    have fits : (closed source).length < source.length + 5 := by simp
    have grouped : Grammar.Move (source.length + 5)
        ⟨[], [⟨.look .textStart, true⟩], ⟨'(' :: '?' :: ':' :: closed source, .initial, []⟩⟩
        ⟨[], [⟨inner, true⟩, ⟨.look .textStart, true⟩], ⟨rest, .initial, insideNames⟩⟩ :=
      .group rfl rfl (Grammar.body?_of_enough fits group)
    have behind := (List.suffix_cons _ _).trans (Grammar.body?_suffix group)
    have shorter := behind.length_le
    simp only [length_closed] at shorter
    have fitsBehind : rest.length < source.length + 5 := by omega
    rw [Expr.length_anchored, Grammar.body?_of_move anchor, Grammar.body?_of_move grouped]
    exact Grammar.body?_of_enough fitsBehind others

/-- An expression by itself is read as a pattern, unless it is one with a parenthesis behind it as well: then an open
comment takes the parenthesis in. -/
theorem isExpr_anchored_of_isExpr {source : List Char} (own : IsExpr source) :
    IsExpr (anchored source) ↔ ¬ IsExpr (closed source) := by
  obtain ⟨expr, modes, names, whole⟩ := isExpr_iff.1 own
  have enough : source.length + 1 ≤ source.length + 2 := Nat.le_succ _
  obtain ⟨behind, again, left⟩ := Grammar.readsClosed (source.length + 1) enough whole
  rw [isExpr_anchored_iff]
  obtain rfl | ⟨-, rfl⟩ := left
  · refine iff_of_true ⟨expr, [], modes, names, again, _, .initial, names, Grammar.body?_of_empty rfl⟩ ?_
    intro swallowed
    obtain ⟨other, modes', names', swallowed⟩ := isExpr_iff.1 swallowed
    rw [length_closed] at swallowed
    cases again.symm.trans swallowed
  · refine iff_of_false ?_ (not_not_intro ?_)
    · intro read
      obtain ⟨inner, rest, modes', names', group, -⟩ := read
      cases again.symm.trans group
    · rw [isExpr_iff, length_closed]
      exact ⟨expr, modes, names, again⟩

theorem closesGroup_of_isExpr_anchored {source : List Char} (read : IsExpr (anchored source))
    (foreign : ¬ IsExpr source) : ClosesGroup source := by
  obtain ⟨inner, rest, modes, names, group, behind⟩ := isExpr_anchored_iff.1 read
  have group : Grammar.body? (source.length + 2) [] [] (Reading.continued ⟨source, .initial, []⟩ []) =
      some (inner, ⟨')' :: rest, modes, names⟩) := group
  obtain ⟨own, same, alone⟩ | past := Grammar.cutsBody [] (source.length + 1) (Nat.lt_succ_self _) group
  · obtain ⟨text, ownModes, ownNames⟩ := own
    cases text with
    | nil => exact absurd (isExpr_iff.2 ⟨inner, ownModes, ownNames, alone⟩) foreign
    | cons c text =>
      cases same
      exact ⟨inner, text, ownModes, ownNames, alone, behind⟩
  · cases List.suffix_nil.1 past

theorem isExpr_anchored_of_closesGroup {source : List Char} (closes : ClosesGroup source) :
    IsExpr (anchored source) := by
  obtain ⟨inner, rest, modes, names, alone, others⟩ := closes
  have enough : source.length + 1 ≤ source.length + 2 := Nat.le_succ _
  obtain ⟨behind, again, left⟩ := Grammar.readsClosed (source.length + 1) enough alone
  obtain rfl | ⟨none, -⟩ := left
  · exact isExpr_anchored_iff.2 ⟨inner, closed rest, modes, names, again, others⟩
  · cases none

theorem not_isExpr_of_closesGroup {source : List Char} (closes : ClosesGroup source) : ¬ IsExpr source := by
  intro own
  obtain ⟨inner, rest, modes, names, alone, -⟩ := closes
  obtain ⟨expr, modes', names', whole⟩ := isExpr_iff.1 own
  cases alone.symm.trans whole

theorem exists_isExpr_of_closesGroup {source : List Char} (closes : ClosesGroup source) :
    ∃ front rest, source = front ++ ')' :: rest ∧ IsExpr front := by
  obtain ⟨inner, rest, modes, names, alone, -⟩ := closes
  obtain ⟨front, rfl⟩ := Grammar.body?_suffix alone
  refine ⟨front, rest, rfl, ?_⟩
  have whole : Grammar.body? ((front ++ ')' :: rest).length + 1) [] [] (Reading.continued ⟨front, .initial, []⟩ rest) =
      some (inner, ⟨')' :: rest, modes, names⟩) := alone
  obtain ⟨own, same, read⟩ | past := Grammar.cutsBody rest (front.length + 1) (Nat.lt_succ_self _) whole
  · obtain ⟨text, ownModes, ownNames⟩ := own
    cases text with
    | nil => exact isExpr_iff.2 ⟨inner, ownModes, ownNames, read⟩
    | cons c text =>
      have longer := congrArg (fun reading => reading.text.length) same
      simp only [Reading.continued, continued_cons, List.length_cons, length_continued] at longer
      omega
  · have longer := past.length_le
    rw [List.length_cons] at longer
    omega

/-- Exactly two sorts of text are read as patterns: expressions that leave no comment open, and texts that close the
group themselves. -/
theorem isExpr_anchored_iff_own {source : List Char} :
    IsExpr (anchored source) ↔ (IsExpr source ∧ ¬ IsExpr (closed source)) ∨ ClosesGroup source := by
  by_cases own : IsExpr source
  · have noClose : ¬ ClosesGroup source := fun closes => not_isExpr_of_closesGroup closes own
    rw [isExpr_anchored_of_isExpr own]
    simp only [own, noClose, true_and, or_false]
  · constructor
    · intro read
      exact .inr (closesGroup_of_isExpr_anchored read own)
    · intro either
      obtain ⟨own', -⟩ | closes := either
      · exact absurd own' own
      · exact isExpr_anchored_of_closesGroup closes

end Criteria.Pattern
