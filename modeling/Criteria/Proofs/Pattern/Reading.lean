import Criteria.Pattern.Basic
import Criteria.Proofs.Pattern.Search

/-!
Reading a pattern as steps. What one step of reading a group can do is said once, and what all steps
preserve holds when the group ends; so the bounds of all repetitions that are read are in order.
-/
namespace Criteria.Pattern

namespace Grammar

structure Progress where
  earlier : List Expr
  parts : List Part
  reading : Reading

/-- What one step of reading a group does. Inside a step, a nested group is read with so much fuel. -/
inductive Move (fuel : Nat) : Progress → Progress → Prop
  | branch {earlier : List Expr} {parts : List Part} {reading : Reading} {rest : List Char}
      (ahead : reading.modes.skip reading.text = '|' :: rest) :
      Move fuel ⟨earlier, parts, reading⟩ ⟨sequence parts :: earlier, [], { reading with text := rest }⟩
  | change {earlier : List Expr} {parts : List Part} {reading : Reading} {rest after : List Char} {modes : Modes}
      (ahead : reading.modes.skip reading.text = '(' :: rest)
      (opens : opening? reading rest = some (.change modes after)) :
      Move fuel ⟨earlier, parts, reading⟩ ⟨earlier, ⟨.empty, false⟩ :: parts, ⟨after, modes, reading.names⟩⟩
  | group {earlier : List Expr} {parts : List Part} {reading inside : Reading} {rest after : List Char}
      {inner : Expr} {modes : Modes} {names : List (List Char)}
      (ahead : reading.modes.skip reading.text = '(' :: rest)
      (opens : opening? reading rest = some (.group inside))
      (read : body? fuel [] [] inside = some (inner, ⟨')' :: after, modes, names⟩)) :
      Move fuel ⟨earlier, parts, reading⟩ ⟨earlier, ⟨inner, true⟩ :: parts, ⟨after, reading.modes, names⟩⟩
  | again {earlier : List Expr} {parts others : List Part} {reading : Reading} {rest : List Char} {least : Nat}
      {most : Option Nat}
      (repeats : repetition? reading.modes (reading.modes.skip reading.text) = some (some (least, most, rest)))
      (last : repeatLast? least most parts = some others) :
      Move fuel ⟨earlier, parts, reading⟩ ⟨earlier, others, { reading with text := rest }⟩
  | primitive {earlier : List Expr} {parts : List Part} {reading : Reading} {c : Char} {text rest : List Char}
      {expr : Expr} (ahead : reading.modes.skip reading.text = c :: text)
      (plain : c ≠ ')' ∧ c ≠ '|' ∧ c ≠ '(')
      (single : repetition? reading.modes (c :: text) = some none)
      (read : primitive? reading.modes (c :: text) = some (expr, rest)) :
      Move fuel ⟨earlier, parts, reading⟩ ⟨earlier, ⟨expr, true⟩ :: parts, { reading with text := rest }⟩

def Ends (text : List Char) : Prop := text = [] ∨ ∃ rest, text = ')' :: rest

theorem move_of_body? {fuel : Nat} {earlier : List Expr} {parts : List Part} {reading after : Reading}
    {expr : Expr} (read : body? (fuel + 1) earlier parts reading = some (expr, after)) :
    (Ends (reading.modes.skip reading.text) ∧ expr = branches earlier parts ∧
        after = { reading with text := reading.modes.skip reading.text }) ∨
      ∃ next, Move fuel ⟨earlier, parts, reading⟩ next ∧
        body? fuel next.earlier next.parts next.reading = some (expr, after) := by
  unfold body? at read
  simp only at read
  split at read
  · rename_i ahead
    cases read
    exact .inl ⟨.inl ahead, rfl, by rw [ahead]⟩
  · rename_i rest ahead
    cases read
    exact .inl ⟨.inr ⟨rest, ahead⟩, rfl, by rw [ahead]⟩
  · rename_i ahead
    exact .inr ⟨_, .branch ahead, read⟩
  · rename_i ahead
    split at read
    · cases read
    · rename_i opens
      exact .inr ⟨_, .change ahead opens, read⟩
    · rename_i opens
      split at read
      · rename_i inner
        exact .inr ⟨_, .group ahead opens inner, read⟩
      · cases read
  · rename_i text noEnd noClose noBar noOpen
    split at read
    · cases read
    · rename_i repeats
      split at read
      · rename_i last
        exact .inr ⟨_, .again repeats last, read⟩
      · cases read
    · rename_i single
      split at read
      · rename_i part
        cases ahead : reading.modes.skip reading.text with
        | nil => exact absurd ahead noEnd
        | cons c text =>
          have plain : c ≠ ')' ∧ c ≠ '|' ∧ c ≠ '(' :=
            ⟨fun same => noClose text (same ▸ ahead), fun same => noBar text (same ▸ ahead),
              fun same => noOpen text (same ▸ ahead)⟩
          rw [ahead] at single part
          exact .inr ⟨_, .primitive ahead plain single part, read⟩
      · cases read

theorem head_of_repetition? {modes : Modes} {text : List Char} {bounds : Nat × Option Nat × List Char}
    (repeats : repetition? modes text = some (some bounds)) :
    ∃ c rest, text = c :: rest ∧ (c = '?' ∨ c = '*' ∨ c = '+' ∨ c = '\x7b') := by
  unfold repetition? at repeats
  split at repeats
  · exact ⟨_, _, rfl, .inl rfl⟩
  · exact ⟨_, _, rfl, .inr (.inl rfl)⟩
  · exact ⟨_, _, rfl, .inr (.inr (.inl rfl))⟩
  · exact ⟨_, _, rfl, .inr (.inr (.inr rfl))⟩
  · cases repeats

theorem body?_of_ends {fuel : Nat} {earlier : List Expr} {parts : List Part} {reading : Reading}
    (ends : Ends (reading.modes.skip reading.text)) :
    body? (fuel + 1) earlier parts reading =
      some (branches earlier parts, { reading with text := reading.modes.skip reading.text }) := by
  unfold body?
  obtain ahead | ⟨rest, ahead⟩ := ends
  · simp only [ahead]
  · simp only [ahead]

theorem body?_of_plain {fuel : Nat} {earlier : List Expr} {parts : List Part} {reading : Reading} {c : Char}
    {text : List Char} (ahead : reading.modes.skip reading.text = c :: text)
    (plain : c ≠ ')' ∧ c ≠ '|' ∧ c ≠ '(') :
    body? (fuel + 1) earlier parts reading =
      match repetition? reading.modes (c :: text) with
      | none => none
      | some (some (least, most, rest)) =>
        (repeatLast? least most parts).bind fun others => body? fuel earlier others { reading with text := rest }
      | some none =>
        (primitive? reading.modes (c :: text)).bind fun read =>
          body? fuel earlier (⟨read.1, true⟩ :: parts) { reading with text := read.2 } := by
  rw [body?]
  simp only [ahead]
  split
  · rename_i same
    cases same
  · rename_i same
    exact absurd (List.cons.inj same).1 plain.1
  · rename_i same
    exact absurd (List.cons.inj same).1 plain.2.1
  · rename_i same
    exact absurd (List.cons.inj same).1 plain.2.2
  · cases repetition? reading.modes (c :: text) with
    | none => rfl
    | some bounds =>
      cases bounds with
      | none => cases primitive? reading.modes (c :: text) <;> rfl
      | some bounds =>
        simp only
        cases repeatLast? bounds.1 bounds.2.1 parts <;> rfl

theorem body?_of_move {fuel : Nat} {start next : Progress} (move : Move fuel start next) :
    body? (fuel + 1) start.earlier start.parts start.reading =
      body? fuel next.earlier next.parts next.reading := by
  cases move with
  | branch ahead =>
    rw [body?]
    simp only [ahead]
  | change ahead opens =>
    rw [body?]
    simp only [ahead, opens]
  | group ahead opens read =>
    rw [body?]
    simp only [ahead, opens, read]
  | again repeats last =>
    obtain ⟨c, text, ahead, starts⟩ := head_of_repetition? repeats
    have plain : c ≠ ')' ∧ c ≠ '|' ∧ c ≠ '(' := by
      obtain rfl | rfl | rfl | rfl := starts <;> decide
    rw [ahead] at repeats
    simp only [body?_of_plain ahead plain, repeats, last, Option.bind_some]
  | primitive ahead plain single read =>
    simp only [body?_of_plain ahead plain, single, read, Option.bind_some]

/-- What every step preserves holds at the end of the group. -/
theorem exists_end_of_body? {fuel : Nat} {Holds : List Expr → List Part → Prop}
    (step : ∀ less < fuel, ∀ start next, Move less start next →
      Holds start.earlier start.parts → Holds next.earlier next.parts)
    {earlier : List Expr} {parts : List Part} {reading after : Reading} {expr : Expr}
    (read : body? fuel earlier parts reading = some (expr, after)) (holds : Holds earlier parts) :
    ∃ complete last, Holds complete last ∧ expr = branches complete last := by
  induction fuel generalizing earlier parts reading with
  | zero =>
    rw [body?] at read
    cases read
  | succ fuel ih =>
    obtain ⟨-, same, -⟩ | ⟨next, move, rest⟩ := move_of_body? read
    · exact ⟨earlier, parts, holds, same⟩
    · have later := step fuel (Nat.lt_succ_self fuel) _ next move holds
      exact ih (fun less fewer => step less (Nat.lt_succ_of_lt fewer)) rest later

section Bounds

def AllBounded (earlier : List Expr) (parts : List Part) : Prop :=
  (∀ branch ∈ earlier, branch.Bounded) ∧ ∀ part ∈ parts, part.expr.Bounded

theorem bounded_sequence {parts : List Part} (bounded : ∀ part ∈ parts, part.expr.Bounded) :
    (sequence parts).Bounded := by
  induction parts with
  | nil => trivial
  | cons last earlier ih =>
    obtain ⟨lastBounded, earlierBounded⟩ := List.forall_mem_cons.1 bounded
    cases earlier with
    | nil => exact lastBounded
    | cons part earlier => exact ⟨ih earlierBounded, lastBounded⟩

theorem bounded_branches {earlier : List Expr} {parts : List Part} (bounded : AllBounded earlier parts) :
    (branches earlier parts).Bounded := by
  obtain ⟨earlierBounded, partsBounded⟩ := bounded
  have last := bounded_sequence partsBounded
  cases earlier with
  | nil => exact last
  | cons branch earlier =>
    refine ⟨?_, last⟩
    obtain ⟨branchBounded, restBounded⟩ := List.forall_mem_cons.1 earlierBounded
    clear earlierBounded
    induction earlier generalizing branch with
    | nil => exact branchBounded
    | cons left earlier ih =>
      obtain ⟨leftBounded, others⟩ := List.forall_mem_cons.1 restBounded
      exact ih (.choice left branch) ⟨leftBounded, branchBounded⟩ others

theorem bounds?_ordered {modes : Modes} {text rest : List Char} {least : Nat} {most : Option Nat}
    (read : bounds? modes text = some (least, most, rest)) : ∀ bound, most = some bound → least ≤ bound := by
  intro bound limited
  subst limited
  simp only [bounds?, Option.bind_eq_bind, Option.bind_eq_some_iff] at read
  obtain ⟨⟨low, text⟩, -, read⟩ := read
  simp only at read
  split at read
  · split at read
    · cases read
    · simp only [Option.bind_eq_some_iff] at read
      obtain ⟨⟨high, text⟩, -, read⟩ := read
      simp only at read
      split at read
      · split at read
        · cases read
          assumption
        · cases read
      · cases read
  · cases read
    exact Nat.le_refl _
  · cases read

theorem repetition?_ordered {modes : Modes} {text rest : List Char} {least : Nat} {most : Option Nat}
    (repeats : repetition? modes text = some (some (least, most, rest))) :
    ∀ bound, most = some bound → least ≤ bound := by
  unfold repetition? at repeats
  split at repeats
  · cases repeats
    exact fun _ _ => Nat.zero_le _
  · cases repeats
    exact fun _ _ => Nat.zero_le _
  · cases repeats
    intro bound limited
    cases limited
  · obtain ⟨read, bounds, same⟩ := Option.map_eq_some_iff.1 repeats
    cases same
    exact bounds?_ordered bounds
  · cases repeats

theorem primitive?_bounded {modes : Modes} {text rest : List Char} {expr : Expr}
    (read : primitive? modes text = some (expr, rest)) : expr.Bounded := by
  unfold primitive? at read
  split at read
  · cases read
  · unfold escaped? at read
    split at read
    · obtain ⟨set, -, same⟩ := Option.map_eq_some_iff.1 read
      cases same
      trivial
    · cases read
      trivial
    · cases read
      trivial
    · cases read
  · obtain ⟨set, -, same⟩ := Option.map_eq_some_iff.1 read
    cases same
    trivial
  · cases read
    trivial
  · cases read
    trivial
  · obtain ⟨class', -, same⟩ := Option.map_eq_some_iff.1 read
    cases same
    trivial
  · obtain ⟨set, -, same⟩ := Option.map_eq_some_iff.1 read
    cases same
    trivial

theorem bounded_of_repeatLast? {least : Nat} {most : Option Nat} {parts others : List Part}
    (last : repeatLast? least most parts = some others) (order : ∀ bound, most = some bound → least ≤ bound)
    (bounded : ∀ part ∈ parts, part.expr.Bounded) : ∀ part ∈ others, part.expr.Bounded := by
  unfold repeatLast? at last
  split at last
  · cases last
  · split at last
    · cases last
      obtain ⟨lastBounded, earlierBounded⟩ := List.forall_mem_cons.1 bounded
      exact List.forall_mem_cons.2 ⟨⟨lastBounded, order⟩, earlierBounded⟩
    · cases last

theorem Move.allBounded {fuel : Nat} {start next : Progress} (move : Move fuel start next)
    (inner : ∀ {inside after expr}, body? fuel [] [] inside = some (expr, after) → expr.Bounded)
    (bounded : AllBounded start.earlier start.parts) : AllBounded next.earlier next.parts := by
  obtain ⟨earlierBounded, partsBounded⟩ := bounded
  cases move with
  | branch ahead =>
    exact ⟨List.forall_mem_cons.2 ⟨bounded_sequence partsBounded, earlierBounded⟩, List.forall_mem_nil _⟩
  | change ahead opens => exact ⟨earlierBounded, List.forall_mem_cons.2 ⟨trivial, partsBounded⟩⟩
  | group ahead opens read => exact ⟨earlierBounded, List.forall_mem_cons.2 ⟨inner read, partsBounded⟩⟩
  | again repeats last =>
    exact ⟨earlierBounded, bounded_of_repeatLast? last (repetition?_ordered repeats) partsBounded⟩
  | primitive ahead plain single read =>
    exact ⟨earlierBounded, List.forall_mem_cons.2 ⟨primitive?_bounded read, partsBounded⟩⟩

/-- The bounds of all repetitions of an expression that is read are in order. -/
theorem bounded_of_body? {fuel : Nat} {earlier : List Expr} {parts : List Part} {reading after : Reading}
    {expr : Expr} (read : body? fuel earlier parts reading = some (expr, after))
    (bounded : AllBounded earlier parts) : expr.Bounded := by
  induction fuel using Nat.strongRecOn generalizing earlier parts reading after expr with
  | ind fuel ih =>
    have step : ∀ less < fuel, ∀ start next, Move less start next →
        AllBounded start.earlier start.parts → AllBounded next.earlier next.parts := by
      intro less fewer start next move
      apply move.allBounded
      exact fun inner => ih less fewer inner ⟨List.forall_mem_nil _, List.forall_mem_nil _⟩
    obtain ⟨complete, last, holds, rfl⟩ := exists_end_of_body? step read bounded
    exact bounded_branches holds

end Bounds

end Grammar

theorem Expr.bounded_of_ofChars? {text : List Char} {expr : Expr} (read : ofChars? text = some expr) :
    expr.Bounded := by
  unfold ofChars? at read
  split at read
  · rename_i result
    cases read
    exact Grammar.bounded_of_body? result ⟨List.forall_mem_nil _, List.forall_mem_nil _⟩
  · cases read

end Criteria.Pattern
