import Criteria.Proofs.Pattern.Closing.Brackets
import Criteria.Proofs.Pattern.Reading

/-!
A pattern with a parenthesis added at the end. Reading it makes the same steps and stops at the added
parenthesis, unless an open comment takes that in.
-/
namespace Criteria.Pattern

def Reading.closed (reading : Reading) : Reading := { reading with text := Pattern.closed reading.text }

@[simp] theorem Reading.closed_modes (reading : Reading) : reading.closed.modes = reading.modes := rfl

@[simp] theorem Reading.closed_names (reading : Reading) : reading.closed.names = reading.names := rfl

namespace Grammar

variable {modes : Modes} {text rest : List Char}

theorem modeLetters?_closed {on : Bool} {seen letters : List Char} {after : Modes}
    (read : modeLetters? on seen modes text = some (letters, after, rest)) :
    modeLetters? on seen modes (closed text) = some (letters, after, closed rest) := by
  induction text generalizing on seen modes with
  | nil => cases read
  | cons c text ih =>
    rw [closed_cons]
    rw [modeLetters?] at read ⊢
    split at read
    · rename_i ends
      rw [if_pos ends]
      split at read
      · cases read
      · rename_i named
        cases read
        rw [if_neg named]
        rfl
    · rename_i goesOn
      rw [if_neg goesOn]
      split at read
      · cases read
      · rename_i fresh
        rw [if_neg fresh]
        split at read
        · rename_i hyphen
          rw [if_pos hyphen]
          exact ih read
        · rename_i letter
          rw [if_neg letter]
          split at read
          · exact ih read
          · cases read

theorem groupName?_closed {name : List Char} (read : groupName? text = some (name, rest)) :
    groupName? (closed text) = some (name, closed rest) := by
  unfold groupName? at read
  split at read
  · rename_i first others after taken dropped
    split at read
    · rename_i valid
      cases read
      unfold groupName?
      rw [takeWhile_closed dropped, dropWhile_closed dropped, taken]
      simp only [valid, if_true]
    · cases read
  · cases read

def Opening.closed : Opening → Opening
  | .change modes rest => .change modes (Pattern.closed rest)
  | .group inside => .group inside.closed

theorem namedGroup?_closed {reading : Reading} {opening : Opening} (opens : namedGroup? reading text = some opening) :
    namedGroup? reading.closed (closed text) = some opening.closed := by
  unfold namedGroup? at opens ⊢
  split at opens
  · rename_i name after named
    rw [groupName?_closed named]
    simp only
    split at opens
    · cases opens
    · rename_i fresh
      cases opens
      rw [Reading.closed_names, if_neg fresh]
      rfl
  · cases opens

theorem opening?_of_plain {reading : Reading} {c : Char} (ahead : reading.modes.skip text = c :: rest)
    (plain : c ≠ '?') : opening? reading text = some (.group ⟨c :: rest, reading.modes, reading.names⟩) := by
  unfold opening?
  rw [ahead]
  split
  iterate 7
    · rename_i same
      exact absurd (List.cons.inj same).1 plain
  · rfl

/-- An opening is read in the same way, if what it opens does not stand at the end of the text. -/
theorem opening?_closed {reading : Reading} {opening : Opening} (opens : opening? reading text = some opening)
    (inhabited : ∀ inside, opening = .group inside → inside.text ≠ []) :
    opening? reading.closed (closed text) = some opening.closed := by
  unfold opening? at opens
  split at opens
  · cases opens
  · cases opens
  · cases opens
  · cases opens
  · rename_i ahead
    simp only [opening?, Reading.closed_modes, Modes.skip_closed ahead, closed_cons]
    exact namedGroup?_closed opens
  · rename_i others noEqual noBang ahead
    -- That the longer text starts with neither mark is what opens the case of `opening?` below.
    have noEqualClosed := closed_starts (by decide) noEqual
    have noBangClosed := closed_starts (by decide) noBang
    simp only [opening?, Reading.closed_modes, Modes.skip_closed ahead, closed_cons]
    exact namedGroup?_closed opens
  · rename_i others noEqual noBang noBehindEqual noBehindBang noNamed noAngle ahead
    have noEqualClosed := closed_starts (by decide) noEqual
    have noBangClosed := closed_starts (by decide) noBang
    have noBehindEqualClosed := closed_starts_two (by decide) (by decide) noBehindEqual
    have noBehindBangClosed := closed_starts_two (by decide) (by decide) noBehindBang
    have noNamedClosed := closed_starts_two (by decide) (by decide) noNamed
    have noAngleClosed := closed_starts (by decide) noAngle
    simp only [opening?, Reading.closed_modes, Modes.skip_closed ahead]
    split at opens
    · rename_i letters
      cases opens
      rw [modeLetters?_closed letters]
      rfl
    · rename_i letters
      cases opens
      rw [modeLetters?_closed letters]
      rfl
    · cases opens
  · rename_i plain
    cases opens
    have some := inhabited _ rfl
    cases ahead : reading.modes.skip text with
    | nil => exact absurd ahead some
    | cons c others =>
      have noMark : c ≠ '?' := fun same => plain others (same ▸ ahead)
      exact opening?_of_plain (Modes.skip_closed ahead) noMark

theorem countDigits_eq_scan (fuel : Nat) (text : List Char) :
    countDigits modes fuel text = scan modes Char.isDigit fuel text := by
  induction fuel generalizing text with
  | zero => rfl
  | succ fuel ih => cases text with
    | nil => rfl
    | cons c rest => rw [countDigits, scan, ih]

theorem skipCountBlanks_eq_scan (fuel : Nat) (text : List Char) :
    skipCountBlanks modes fuel text = (scan modes Unicode.isWhiteSpace fuel text).2 := by
  induction fuel generalizing text with
  | zero => rfl
  | succ fuel ih => cases text with
    | nil => rfl
    | cons c rest =>
      rw [skipCountBlanks, scan, ih]
      split <;> rfl

theorem skipCountBlanks_closed {c : Char} (read : skipCountBlanks modes text.length text = c :: rest) :
    skipCountBlanks modes (closed text).length (closed text) = c :: closed rest := by
  rw [skipCountBlanks_eq_scan] at read ⊢
  cases blanks : scan modes Unicode.isWhiteSpace text.length text with
  | mk found after =>
    rw [blanks] at read
    cases read
    rw [scan_closed (Nat.le_refl _) (Nat.le_refl _) blanks]

theorem count?_nil (modes : Modes) : count? modes [] = none := rfl

theorem count?_closed {value : Nat} {c : Char} (read : count? modes text = some (value, c :: rest)) :
    count? modes (closed text) = some (value, c :: closed rest) := by
  unfold count? at read ⊢
  cases blanks : text.dropWhile Unicode.isWhiteSpace with
  | nil =>
    simp only [blanks, countDigits_eq_scan, scan_nil] at read
    cases read
  | cons first others =>
    cases digits : countDigits modes (first :: others).length (first :: others) with
    | mk number after =>
      simp only [blanks, digits] at read
      split at read
      · cases read
      · rename_i valid
        obtain ⟨rfl, behind⟩ : Text.decimal number = value ∧ skipCountBlanks modes after.length after = c :: rest := by
          simpa using read
        cases after with
        | nil =>
          cases behind
        | cons second after =>
          rw [countDigits_eq_scan] at digits
          have digitsClosed := scan_closed (Nat.le_refl _) (Nat.le_refl _) digits
          have behindClosed := skipCountBlanks_closed behind
          rw [closed_cons] at digitsClosed behindClosed
          simp only [dropWhile_closed blanks, countDigits_eq_scan, digitsClosed, behindClosed, if_neg valid]

def most? (modes : Modes) (least : Nat) : List Char → Option (Nat × Option Nat × List Char)
  | '\x7d' :: rest => some (least, none, rest)
  | text =>
    (count? modes text).bind fun most =>
      match most.2 with
      | '\x7d' :: rest => if least ≤ most.1 then some (least, some most.1, rest) else none
      | _ => none

def boundsFrom? (modes : Modes) (least : Nat) : List Char → Option (Nat × Option Nat × List Char)
  | ',' :: rest => most? modes least (modes.skip rest)
  | '\x7d' :: rest => some (least, some least, rest)
  | _ => none

theorem bounds?_eq (modes : Modes) (text : List Char) :
    bounds? modes text = (count? modes (modes.skip text)).bind fun least => boundsFrom? modes least.1 least.2 := rfl

theorem most?_closed {low least : Nat} {most : Option Nat} (read : most? modes low text = some (least, most, rest)) :
    most? modes low (closed text) = some (least, most, closed rest) := by
  unfold most? at read ⊢
  split at read
  · cases read
    rfl
  · rename_i noBrace
    obtain ⟨⟨high, last⟩, count, bounded⟩ := Option.bind_eq_some_iff.1 read
    simp only at bounded
    split at bounded
    · split at bounded
      · rename_i order
        cases bounded
        cases text with
        | nil =>
          rw [count?_nil] at count
          cases count
        | cons c others =>
          rw [closed_cons]
          split
          · rename_i same
            cases same
            exact absurd rfl (noBrace others)
          · rw [← closed_cons, count?_closed count, Option.bind_some]
            simp only [order, if_true]
      · cases bounded
    · cases bounded

theorem boundsFrom?_closed {low least : Nat} {most : Option Nat}
    (read : boundsFrom? modes low text = some (least, most, rest)) :
    boundsFrom? modes low (closed text) = some (least, most, closed rest) := by
  unfold boundsFrom? at read
  split at read
  · rename_i behind
    rw [closed_cons, boundsFrom?]
    cases next : modes.skip behind with
    | nil =>
      rw [next, most?, count?_nil] at read
      · cases read
      · intro rest same
        cases same
    | cons c others =>
      rw [next] at read
      rw [Modes.skip_closed next, ← closed_cons]
      exact most?_closed read
  · cases read
    rfl
  · cases read

theorem bounds?_closed {least : Nat} {most : Option Nat} (read : bounds? modes text = some (least, most, rest)) :
    bounds? modes (closed text) = some (least, most, closed rest) := by
  rw [bounds?_eq] at read ⊢
  obtain ⟨⟨low, after⟩, count, bounded⟩ := Option.bind_eq_some_iff.1 read
  cases ahead : modes.skip text with
  | nil =>
    rw [ahead, count?_nil] at count
    cases count
  | cons first others =>
    rw [ahead] at count
    rw [Modes.skip_closed ahead, ← closed_cons]
    cases after with
    | nil => cases bounded
    | cons c after =>
      rw [count?_closed count, Option.bind_some]
      exact boundsFrom?_closed bounded

theorem skipShortest_of_plain (plain : text.head? ≠ some '?') : skipShortest text = text := by
  unfold skipShortest
  split
  · exact absurd rfl plain
  · rfl

theorem skipShortest_continued (text more : List Char) :
    skipShortest (continued text more) = continued (skipShortest text) more := by
  by_cases mark : text.head? = some '?'
  · obtain ⟨rest, rfl⟩ := List.head?_eq_some_iff.1 mark
    rfl
  · have plain : (continued text more).head? ≠ some '?' := by
      cases text with
      | nil => exact fun same => absurd (Option.some.inj same) (by decide)
      | cons c text => exact mark
    rw [skipShortest_of_plain mark, skipShortest_of_plain plain]

theorem skipShortest_closed (text : List Char) : skipShortest (closed text) = closed (skipShortest text) :=
  skipShortest_continued text []

/-- What is left of a text with the parenthesis added: as much as without it, and then the parenthesis, unless an
open comment has taken that in. -/
def LeftClosed (rest behind : List Char) : Prop := behind = closed rest ∨ (rest = [] ∧ behind = [])

theorem repetition?_eq_some_none_iff {c : Char} :
    repetition? modes (c :: text) = some none ↔ c ≠ '?' ∧ c ≠ '*' ∧ c ≠ '+' ∧ c ≠ '\x7b' := by
  constructor
  · intro single
    refine ⟨?_, ?_, ?_, ?_⟩
    · rintro rfl
      cases single
    · rintro rfl
      cases single
    · rintro rfl
      cases single
    · rintro rfl
      obtain ⟨bounds, -, same⟩ := Option.map_eq_some_iff.1 single
      cases same
  · intro plain
    obtain ⟨noMark, noStar, noPlus, noBrace⟩ := plain
    unfold repetition?
    split
    · rename_i same
      exact absurd (List.cons.inj same).1 noMark
    · rename_i same
      exact absurd (List.cons.inj same).1 noStar
    · rename_i same
      exact absurd (List.cons.inj same).1 noPlus
    · rename_i same
      exact absurd (List.cons.inj same).1 noBrace
    · rfl

theorem repetition?_closed_of_none (single : repetition? modes text = some none) :
    repetition? modes (closed text) = some none := by
  cases text with
  | nil => rfl
  | cons c text => exact repetition?_eq_some_none_iff.2 (repetition?_eq_some_none_iff.1 single)

theorem leftClosed_skipShortest_skip (modes : Modes) (text : List Char) :
    LeftClosed (skipShortest (modes.skip text)) (skipShortest (modes.skip (closed text))) := by
  cases ahead : modes.skip text with
  | nil =>
    obtain taken | added := Modes.skip_closed_of_nil ahead
    · exact .inr ⟨rfl, by rw [taken]; rfl⟩
    · exact .inl (by rw [added]; rfl)
  | cons c others =>
    rw [Modes.skip_closed ahead, ← closed_cons]
    exact .inl (skipShortest_closed _)

theorem repetition?_closed {least : Nat} {most : Option Nat}
    (repeats : repetition? modes text = some (some (least, most, rest))) :
    ∃ behind, repetition? modes (closed text) = some (some (least, most, behind)) ∧ LeftClosed rest behind := by
  unfold repetition? at repeats
  split at repeats
  · cases repeats
    exact ⟨_, rfl, .inl (skipShortest_closed _)⟩
  · cases repeats
    exact ⟨_, rfl, .inl (skipShortest_closed _)⟩
  · cases repeats
    exact ⟨_, rfl, .inl (skipShortest_closed _)⟩
  · obtain ⟨⟨low, high, after⟩, bounds, same⟩ := Option.map_eq_some_iff.1 repeats
    cases same
    refine ⟨_, ?_, leftClosed_skipShortest_skip modes after⟩
    rw [closed_cons, repetition?, bounds?_closed bounds]
    rfl
  · cases repeats

theorem escaped?_closed {expr : Expr} (read : escaped? modes text = some (expr, rest)) :
    escaped? modes (closed text) = some (expr, closed rest) := by
  unfold escaped? at read ⊢
  split at read
  · rename_i escape
    obtain ⟨set, literal, same⟩ := Option.map_eq_some_iff.1 read
    cases same
    simp only [Escape.read?_closed escape, literal, Option.map_some]
  · rename_i escape
    cases read
    simp only [Escape.read?_closed escape]
  · rename_i escape
    cases read
    simp only [Escape.read?_closed escape]
  · cases read

theorem primitive?_closed {expr : Expr} (read : primitive? modes text = some (expr, rest)) :
    primitive? modes (closed text) = some (expr, closed rest) := by
  unfold primitive? at read
  split at read
  · cases read
  · exact escaped?_closed read
  · obtain ⟨set, dot, same⟩ := Option.map_eq_some_iff.1 read
    cases same
    simp only [closed_cons, primitive?, dot, Option.map_some]
  · cases read
    rfl
  · cases read
    rfl
  · obtain ⟨⟨set, after⟩, inside, same⟩ := Option.map_eq_some_iff.1 read
    cases same
    simp only [closed_cons, primitive?, Brackets.read?_closed inside, Option.map_some]
  · obtain ⟨set, literal, same⟩ := Option.map_eq_some_iff.1 read
    cases same
    simp only [closed_cons, primitive?, literal, Option.map_some]

theorem body?_of_empty {fuel : Nat} {earlier : List Expr} {parts : List Part} {reading : Reading}
    (empty : reading.text = []) : body? (fuel + 1) earlier parts reading = some (branches earlier parts, reading) := by
  have ahead : reading.modes.skip reading.text = [] := by rw [empty, Modes.skip_nil]
  rw [body?_of_ends (.inl ahead), ahead, ← empty]

/-- Reading a group is not changed by a parenthesis behind the text: it comes to the same expression, and stops
before the added parenthesis if it came to the end before. -/
def ReadsClosed (fuel : Nat) : Prop :=
  ∀ {more : Nat} {earlier : List Expr} {parts : List Part} {reading after : Reading} {expr : Expr}, fuel ≤ more →
    body? fuel earlier parts reading = some (expr, after) →
      ∃ behind, body? more earlier parts reading.closed = some (expr, { after with text := behind }) ∧
        LeftClosed after.text behind

theorem Move.closed {fuel more : Nat} {start next : Progress} (enough : fuel ≤ more) (inner : ReadsClosed fuel)
    (move : Move fuel start next) :
    ∃ behind, Move more ⟨start.earlier, start.parts, start.reading.closed⟩
        ⟨next.earlier, next.parts, { next.reading with text := behind }⟩ ∧ LeftClosed next.reading.text behind := by
  cases move with
  | branch ahead => exact ⟨_, .branch (Modes.skip_closed ahead), .inl rfl⟩
  | change ahead opens =>
    have opensClosed := opening?_closed opens (by intro inside same; cases same)
    exact ⟨_, .change (Modes.skip_closed ahead) opensClosed, .inl rfl⟩
  | @group earlier parts reading inside rest after inner' modes names ahead opens read =>
    have inhabited : inside.text ≠ [] := by
      intro empty
      cases fuel with
      | zero => cases read
      | succ fuel =>
        rw [body?_of_empty empty] at read
        cases read
        cases empty
    have opensClosed := opening?_closed opens (by intro other same; cases same; exact inhabited)
    obtain ⟨behind, readClosed, left⟩ := inner enough read
    obtain rfl : behind = Pattern.closed (')' :: after) := by
      obtain added | ⟨none, -⟩ := left
      · exact added
      · cases none
    exact ⟨_, .group (Modes.skip_closed ahead) opensClosed readClosed, .inl rfl⟩
  | again repeats last =>
    obtain ⟨c, text, ahead, -⟩ := head_of_repetition? repeats
    rw [ahead] at repeats
    obtain ⟨behind, repeatsClosed, left⟩ := repetition?_closed repeats
    rw [closed_cons, ← Modes.skip_closed ahead] at repeatsClosed
    exact ⟨behind, .again repeatsClosed last, left⟩
  | primitive ahead plain single read =>
    exact ⟨_, .primitive (Modes.skip_closed ahead) plain (repetition?_closed_of_none single) (primitive?_closed read), .inl rfl⟩

theorem closed_of_ends {fuel : Nat} {earlier : List Expr} {parts : List Part} {reading : Reading}
    (ends : Ends (reading.modes.skip reading.text)) :
    ∃ behind, body? (fuel + 1) earlier parts reading.closed =
        some (branches earlier parts, { reading with text := behind }) ∧
      LeftClosed (reading.modes.skip reading.text) behind := by
  have left : ∃ behind, reading.closed.modes.skip reading.closed.text = behind ∧ Ends behind ∧
      LeftClosed (reading.modes.skip reading.text) behind := by
    obtain empty | ⟨rest, ahead⟩ := ends
    · rw [empty]
      obtain taken | added := Modes.skip_closed_of_nil empty
      · exact ⟨[], taken, .inl rfl, .inr ⟨rfl, rfl⟩⟩
      · exact ⟨[')'], added, .inr ⟨[], rfl⟩, .inl rfl⟩
    · rw [ahead]
      exact ⟨_, Modes.skip_closed ahead, .inr ⟨_, rfl⟩, .inl rfl⟩
  obtain ⟨behind, ahead, stops, left⟩ := left
  refine ⟨behind, ?_, left⟩
  rw [← ahead] at stops
  rw [body?_of_ends stops, ahead]
  rfl

/-- Every group is read in the same way with a parenthesis behind the text. -/
theorem readsClosed (fuel : Nat) : ReadsClosed fuel := by
  induction fuel with
  | zero =>
    intro more earlier parts reading after expr _ read
    cases read
  | succ fuel ih =>
    intro more earlier parts reading after expr enough read
    obtain ⟨more, rfl⟩ : ∃ less, more = less + 1 := ⟨more - 1, by omega⟩
    have less : fuel ≤ more := Nat.le_of_succ_le_succ enough
    obtain ⟨ends, rfl, rfl⟩ | ⟨next, move, rest⟩ := move_of_body? read
    · exact closed_of_ends ends
    · obtain ⟨behind, moveClosed, left⟩ := move.closed less ih
      have goesOn := body?_of_move moveClosed
      simp only at goesOn
      rw [goesOn]
      obtain rfl | ⟨empty, rfl⟩ := left
      · exact ih less rest
      · -- A comment has taken in the parenthesis, and both readings are at the end.
        cases fuel with
        | zero => cases rest
        | succ fuel =>
          obtain ⟨more, rfl⟩ : ∃ less, more = less + 1 := ⟨more - 1, by omega⟩
          rw [body?_of_empty empty] at rest
          cases rest
          exact ⟨[], body?_of_empty rfl, .inr ⟨empty, rfl⟩⟩

end Grammar

end Criteria.Pattern
