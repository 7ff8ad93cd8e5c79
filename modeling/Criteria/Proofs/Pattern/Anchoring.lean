import Criteria.Proofs.Pattern.Closing.Grammar

/-!
The anchor of a pattern. It stays at the start of the first branch whatever the pattern does, because a
repetition changes only the last part of a branch; but the parenthesis that closes its group may come
before the end of the pattern, and then branches that the anchor does not govern can follow.
-/
namespace Criteria.Pattern

namespace Grammar

def Anchored (expr : Expr) : Prop := ∀ text i j, i ≤ text.length → Expr.Spans text expr i j → i = 0

def StartsWithAnchor (parts : List Part) : Prop :=
  ∃ front second, parts = front ++ [second, ⟨.look .textStart, true⟩]

def AnchoredFirst : (earlier : List Expr) → (parts : List Part) → Prop
  | [], parts => StartsWithAnchor parts
  | branch :: earlier, _ => ∃ others first, branch :: earlier = others ++ [sequence first] ∧ StartsWithAnchor first

theorem anchored_look : Anchored (.look .textStart) := by
  intro text i j inside spans
  obtain ⟨-, holds⟩ := Expr.spans_look_iff.1 spans
  cases i with
  | zero => rfl
  | succ i =>
    rw [Look.holds, Expr.before?, if_neg (Nat.succ_ne_zero i), Nat.add_sub_cancel,
      List.getElem?_eq_getElem (Nat.lt_of_succ_le inside)] at holds
    cases holds

theorem anchored_sequence {first second : Expr} (anchored : Anchored first) : Anchored (.sequence first second) := by
  intro text i k inside spans
  obtain ⟨j, left, -⟩ := Expr.spans_sequence_iff.1 spans
  exact anchored text i j inside left

theorem StartsWithAnchor.sequence {parts : List Part} (starts : StartsWithAnchor parts) :
    (∃ first second, sequence parts = .sequence first second) ∧ Anchored (sequence parts) := by
  obtain ⟨front, second, rfl⟩ := starts
  induction front with
  | nil => exact ⟨⟨_, _, rfl⟩, anchored_sequence anchored_look⟩
  | cons part front ih =>
    have longer : Grammar.sequence (part :: front ++ [second, ⟨.look .textStart, true⟩]) =
        .sequence (Grammar.sequence (front ++ [second, ⟨.look .textStart, true⟩])) part.expr := by
      cases front <;> rfl
    rw [longer]
    exact ⟨⟨_, _, rfl⟩, anchored_sequence ih.2⟩

theorem StartsWithAnchor.cons {parts : List Part} (starts : StartsWithAnchor parts) (part : Part) :
    StartsWithAnchor (part :: parts) := by
  obtain ⟨front, second, rfl⟩ := starts
  exact ⟨part :: front, second, rfl⟩

/-- A repetition changes only the last part, and that is not the anchor. -/
theorem StartsWithAnchor.repeatLast? {parts others : List Part} (starts : StartsWithAnchor parts) {least : Nat}
    {most : Option Nat} (last : repeatLast? least most parts = some others) : StartsWithAnchor others := by
  obtain ⟨front, second, rfl⟩ := starts
  unfold Grammar.repeatLast? at last
  cases front with
  | nil =>
    simp only [List.nil_append] at last
    split at last
    · cases last
      exact ⟨[], _, rfl⟩
    · cases last
  | cons part front =>
    simp only [List.cons_append] at last
    split at last
    · cases last
      exact ⟨_ :: front, second, rfl⟩
    · cases last

theorem Move.anchoredFirst {fuel : Nat} {start next : Progress} (move : Move fuel start next)
    (first : AnchoredFirst start.earlier start.parts) : AnchoredFirst next.earlier next.parts := by
  cases move with
  | @branch earlier parts reading rest ahead =>
    cases earlier with
    | nil => exact ⟨[], parts, rfl, first⟩
    | cons branch earlier =>
      obtain ⟨others, anchored, same, starts⟩ := first
      exact ⟨sequence parts :: others, anchored, by rw [same, List.cons_append], starts⟩
  | @change earlier parts reading rest after modes ahead opens =>
    cases earlier with
    | nil => exact first.cons _
    | cons branch earlier => exact first
  | @group earlier parts reading inside rest after inner modes names ahead opens read =>
    cases earlier with
    | nil => exact first.cons _
    | cons branch earlier => exact first
  | @again earlier parts others reading rest least most repeats last =>
    cases earlier with
    | nil => exact first.repeatLast? last
    | cons branch earlier => exact first
  | @primitive earlier parts reading c text rest expr ahead plain single read =>
    cases earlier with
    | nil => exact first.cons _
    | cons branch earlier => exact first

theorem alternatives_branches (earlier : List Expr) (parts : List Part) :
    (branches earlier parts).alternatives =
      earlier.reverse.flatMap Expr.alternatives ++ (sequence parts).alternatives := by
  cases earlier with
  | nil => rfl
  | cons branch earlier =>
    have folded : (earlier.foldl (fun right left => Expr.choice left right) branch).alternatives =
        earlier.reverse.flatMap Expr.alternatives ++ branch.alternatives := by
      induction earlier generalizing branch with
      | nil => rfl
      | cons left earlier ih =>
        rw [List.foldl_cons, ih, Expr.alternatives, List.reverse_cons, List.flatMap_append, List.flatMap_singleton,
          List.append_assoc]
    rw [branches, Expr.alternatives, folded, List.reverse_cons, List.flatMap_append, List.flatMap_singleton]

theorem alternatives_of_startsWithAnchor {parts : List Part} (starts : StartsWithAnchor parts) :
    (sequence parts).alternatives = [sequence parts] := by
  obtain ⟨first, second, same⟩ := starts.sequence.1
  rw [same]
  rfl

theorem alternatives_of_anchoredFirst {earlier : List Expr} {parts : List Part} (first : AnchoredFirst earlier parts) :
    ∃ branch later, (branches earlier parts).alternatives = branch :: later ∧ Anchored branch := by
  rw [alternatives_branches]
  cases earlier with
  | nil =>
    rw [alternatives_of_startsWithAnchor first]
    exact ⟨_, [], rfl, first.sequence.2⟩
  | cons branch earlier =>
    obtain ⟨others, anchored, same, starts⟩ := first
    rw [same, List.reverse_append, List.reverse_singleton, List.singleton_append, List.flatMap_cons,
      alternatives_of_startsWithAnchor starts]
    exact ⟨_, _, rfl, starts.sequence.2⟩

/-- Reading a pattern between the anchor with its open group and the closing parenthesis: the group is read first,
and reading goes on behind the parenthesis that closes it, which need not be the added one. -/
theorem read_anchored {source : List Char} {fuel : Nat} {expr : Expr} {after : Reading}
    (read : body? (fuel + 2) [] [] ⟨Pattern.anchored source, .initial, []⟩ = some (expr, after)) :
    ∃ inner rest modes names,
      body? fuel [] [] ⟨source ++ [')'], .initial, []⟩ = some (inner, ⟨')' :: rest, modes, names⟩) ∧
        body? fuel [] [⟨inner, true⟩, ⟨.look .textStart, true⟩] ⟨rest, .initial, names⟩ = some (expr, after) := by
  have anchor : Move (fuel + 1) ⟨[], [], ⟨Pattern.anchored source, .initial, []⟩⟩
      ⟨[], [⟨.look .textStart, true⟩], ⟨'(' :: '?' :: ':' :: (source ++ [')']), .initial, []⟩⟩ :=
    .primitive rfl (by decide) rfl rfl
  have opens : opening? ⟨'(' :: '?' :: ':' :: (source ++ [')']), .initial, []⟩ ('?' :: ':' :: (source ++ [')'])) =
      some (.group ⟨source ++ [')'], .initial, []⟩) := rfl
  have rest := (body?_of_move anchor).symm.trans read
  rw [body?] at rest
  simp only [Modes.skip, Modes.initial, Bool.false_eq_true, if_false] at rest opens
  rw [opens] at rest
  simp only at rest
  split at rest
  · rename_i inner
    exact ⟨_, _, _, _, inner, rest⟩
  · cases rest

end Grammar

namespace Expr

theorem length_anchored (source : List Char) : (Pattern.anchored source).length + 1 = (source.length + 5) + 2 := by
  simp [Pattern.anchored]

theorem exists_read_of_anchored {source : List Char} {expr : Expr}
    (read : ofChars? (Pattern.anchored source) = some expr) :
    ∃ inner rest modes names after,
      Grammar.body? (source.length + 5) [] [] ⟨closed source, .initial, []⟩ = some (inner, ⟨')' :: rest, modes, names⟩) ∧
        Grammar.body? (source.length + 5) [] [⟨inner, true⟩, ⟨.look .textStart, true⟩] ⟨rest, .initial, names⟩ =
          some (expr, after) := by
  unfold ofChars? at read
  split at read
  · rename_i modes names result
    cases read
    rw [length_anchored] at result
    obtain ⟨inner, rest, insideModes, insideNames, group, others⟩ := Grammar.read_anchored result
    exact ⟨inner, rest, insideModes, insideNames, _, group, others⟩
  · cases read

/-- The first alternative of what is read for a pattern is anchored. -/
theorem alternatives_of_anchored {source : List Char} {expr : Expr}
    (read : ofChars? (Pattern.anchored source) = some expr) :
    ∃ first later, expr.alternatives = first :: later ∧ Grammar.Anchored first := by
  obtain ⟨inner, rest, modes, names, after, -, others⟩ := exists_read_of_anchored read
  have start : Grammar.AnchoredFirst [] [⟨inner, true⟩, ⟨.look .textStart, true⟩] := ⟨[], ⟨inner, true⟩, rfl⟩
  obtain ⟨complete, last, holds, rfl⟩ :=
    Grammar.exists_end_of_body? (fun _ _ _ _ move first => move.anchoredFirst first) others start
  exact Grammar.alternatives_of_anchoredFirst holds

theorem eq_of_ofChars?_anchored {source : List Char} {own expr : Expr} (alone : ofChars? source = some own)
    (read : ofChars? (Pattern.anchored source) = some expr) : expr = .sequence (.look .textStart) own := by
  obtain ⟨inner, rest, modes, names, after, group, others⟩ := exists_read_of_anchored read
  unfold ofChars? at alone
  split at alone
  · rename_i whole
    cases alone
    obtain ⟨behind, again, left⟩ :=
      Grammar.readsClosed (source.length + 1) (show source.length + 1 ≤ source.length + 5 by omega) whole
    have same := group.symm.trans again
    cases same
    obtain added | ⟨-, none⟩ := left
    · cases added
      rw [Grammar.body?_of_empty rfl] at others
      cases others
      rfl
    · cases none
  · cases alone

end Expr

end Criteria.Pattern
