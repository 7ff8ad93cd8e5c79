import Criteria.Proofs.Pattern.Cutting.Brackets

/-!
Groups in a text that goes on. A group that ends at the parenthesis or before it is read from the text alone in the
same way, and the text alone ends where the parenthesis stands; any other reading has gone past the parenthesis.
-/
namespace Criteria.Pattern

def Reading.continued (reading : Reading) (more : List Char) : Reading :=
  { reading with text := Pattern.continued reading.text more }

namespace Grammar

variable {modes : Modes} {text left more : List Char}

theorem modeLetters?_cut {on : Bool} {seen letters : List Char} {after : Modes}
    (read : modeLetters? on seen modes (continued text more) = some (letters, after, left)) :
    (∃ rest, left = continued rest more ∧ modeLetters? on seen modes text = some (letters, after, rest)) ∨
      left = ')' :: more := by
  induction text generalizing on seen modes with
  | nil =>
    rw [continued_nil, modeLetters?, if_pos (.inr rfl)] at read
    split at read
    · cases read
    · cases read
      exact .inr rfl
  | cons c text ih =>
    rw [continued_cons, modeLetters?] at read
    rw [modeLetters?]
    split at read
    · rename_i ends
      rw [if_pos ends]
      split at read
      · cases read
      · rename_i named
        cases read
        exact .inl ⟨c :: text, rfl, by rw [if_neg named]⟩
    · rename_i goesOn
      rw [if_neg goesOn]
      split at read
      · cases read
      · rename_i fresh
        rw [if_neg fresh]
        split at read
        · rename_i hyphen
          rw [if_pos hyphen]
          exact ih read
        · rename_i letter
          rw [if_neg letter]
          split at read
          · exact ih read
          · cases read

theorem groupName?_cut {name : List Char} (read : groupName? (continued text more) = some (name, left)) :
    Cuts more (groupName? text) name left := by
  cases found : text.dropWhile (· != '>') with
  | nil =>
    unfold groupName? at read
    rw [dropWhile_continued_of_nil more found, List.dropWhile_cons_of_pos (by decide)] at read
    split at read
    · rename_i dropped
      split at read
      · cases read
        have behind : _ <:+ more := List.dropWhile_suffix (· != '>')
        rw [dropped] at behind
        exact .inr (suffix_cons_trans List.suffix_rfl behind)
      · cases read
    · cases read
  | cons c rest =>
    unfold groupName? at read ⊢
    rw [dropWhile_continued more found, takeWhile_continued more found] at read
    rw [found]
    split at read
    · rename_i same
      cases same
      rename_i taken
      rw [taken]
      split at read
      · rename_i valid
        cases read
        exact .inl ⟨rest, rfl, by simp only [valid, if_true]⟩
      · cases read
    · cases read

def Opening.continued (more : List Char) : Opening → Opening
  | .change modes rest => .change modes (Pattern.continued rest more)
  | .group inside => .group (inside.continued more)

theorem namedGroup?_cut {reading : Reading} {opening : Opening}
    (opens : namedGroup? reading (continued text more) = some opening) :
    (∃ own, opening = own.continued more ∧ namedGroup? reading text = some own) ∨ opening.left <:+ more := by
  unfold namedGroup? at opens ⊢
  split at opens
  · rename_i named
    split at opens
    · cases opens
    · rename_i fresh
      cases opens
      obtain ⟨rest, rfl, own⟩ | past := groupName?_cut named
      · refine .inl ⟨.group ⟨rest, reading.modes, _ :: reading.names⟩, rfl, ?_⟩
        simp only [own, if_neg fresh]
      · exact .inr past
  · cases opens

theorem opening?_cut {reading : Reading} {opening : Opening}
    (opens : opening? reading (continued text more) = some opening) :
    (∃ own, opening = own.continued more ∧ opening? reading text = some own) ∨ opening.left <:+ more := by
  obtain ⟨c, rest, ahead, aheadWhole⟩ | ⟨none, past⟩ := reading.modes.skip_continued text more
  · by_cases mark : c = '?'
    · subst mark
      unfold opening? at opens
      rw [aheadWhole] at opens
      split at opens
      iterate 4
        · cases opens
      · rename_i same
        obtain ⟨others, rfl, behind⟩ := exists_of_continued_eq_cons (by decide) (List.cons.inj same).2
        obtain ⟨others, rfl, rfl⟩ := exists_of_continued_eq_cons (by decide) behind.symm
        simp only [opening?, ahead]
        exact namedGroup?_cut opens
      · rename_i noEqual noBang same
        obtain ⟨others, rfl, rfl⟩ := exists_of_continued_eq_cons (by decide) (List.cons.inj same).2
        -- That the longer text starts with neither mark opens the case of `opening?` below.
        have noEqualOwn := starts_of_continued noEqual
        have noBangOwn := starts_of_continued noBang
        simp only [opening?, ahead]
        exact namedGroup?_cut opens
      · rename_i noEqual noBang noBehindEqual noBehindBang noNamed noAngle same
        cases same
        have noEqualOwn := starts_of_continued noEqual
        have noBangOwn := starts_of_continued noBang
        have noBehindEqualOwn := starts_two_of_continued noBehindEqual
        have noBehindBangOwn := starts_two_of_continued noBehindBang
        have noNamedOwn := starts_two_of_continued noNamed
        have noAngleOwn := starts_of_continued noAngle
        simp only [opening?, ahead]
        split at opens
        · rename_i letters
          cases opens
          obtain ⟨rest', same, own⟩ | same := modeLetters?_cut letters
          · obtain ⟨others, rfl, rfl⟩ := exists_of_continued_eq_cons (by decide) same.symm
            exact .inl ⟨.group ⟨others, _, reading.names⟩, rfl, by simp only [own]⟩
          · cases same
        · rename_i letters
          cases opens
          obtain ⟨rest', same, own⟩ | same := modeLetters?_cut letters
          · cases rest' with
            | nil =>
              cases same
              exact .inr List.suffix_rfl
            | cons d others =>
              cases same
              exact .inl ⟨.change _ others, rfl, by simp only [own]⟩
          · cases same
            exact .inr List.suffix_rfl
        · cases opens
      · rename_i plain
        exact absurd rfl (plain _)
    · rw [opening?_of_plain aheadWhole mark] at opens
      cases opens
      exact .inl ⟨_, rfl, opening?_of_plain ahead mark⟩
  · obtain same | past := past
    · rw [opening?_of_plain same (by decide)] at opens
      cases opens
      refine .inl ⟨.group ⟨[], reading.modes, reading.names⟩, rfl, ?_⟩
      simp only [opening?, none]
    · exact .inr ((opening?_suffix opens).trans past)

theorem isDigit_parenthesis : Char.isDigit ')' = false := by decide

theorem count?_of_noDigit {c : Char} {others : List Char} (blanks : text.dropWhile Unicode.isWhiteSpace = c :: others)
    (noDigit : c.isDigit = false) : count? modes text = none := by
  simp only [count?, countDigits_eq_scan, blanks]
  rw [scan_of_stops noDigit, if_pos (.inl rfl)]

theorem count?_cut {value : Nat} (read : count? modes (continued text more) = some (value, left)) :
    Cuts more (count? modes text) value left := by
  cases blanks : text.dropWhile Unicode.isWhiteSpace with
  | nil =>
    have bare := (dropWhile_continued_of_nil more blanks).trans (dropWhile_parenthesis more)
    rw [count?_of_noDigit bare isDigit_parenthesis] at read
    cases read
  | cons first others =>
    simp only [count?, countDigits_eq_scan, skipCountBlanks_eq_scan] at read ⊢
    rw [dropWhile_continued more blanks, ← continued_cons] at read
    rw [blanks]
    cases digits : scan modes Char.isDigit (continued (first :: others) more).length (continued (first :: others) more) with
    | mk number after =>
      rw [digits] at read
      split at read
      · cases read
      · rename_i valid
        cases read
        obtain ⟨rest, rfl, own⟩ | past := scan_cut isDigit_parenthesis (Nat.le_refl _) (Nat.le_refl _) digits
        · rw [Option.some.inj own, if_neg valid]
          obtain ⟨rest', same, own⟩ | past :=
            scan_cut isWhiteSpace_parenthesis (Nat.le_refl _) (Nat.le_refl _)
              (Eq.refl (scan modes Unicode.isWhiteSpace (continued rest more).length (continued rest more)))
          · exact .inl ⟨rest', same, by rw [Option.some.inj own]⟩
          · exact .inr past
        · exact .inr ((scan_suffix ..).trans past)

theorem most?_cut {low least : Nat} {most : Option Nat}
    (read : most? modes low (continued text more) = some (least, most, left)) :
    (∃ rest, left = continued rest more ∧ most? modes low text = some (least, most, rest)) ∨ left <:+ more := by
  unfold most? at read
  split at read
  · rename_i starts
    obtain ⟨others, rfl, rfl⟩ := exists_of_continued_eq_cons (by decide) starts
    cases read
    exact .inl ⟨others, rfl, rfl⟩
  · rename_i noBrace
    have noBraceOwn := starts_of_continued noBrace
    obtain ⟨⟨high, last⟩, count, read⟩ := Option.bind_eq_some_iff.1 read
    simp only at read
    split at read
    · split at read
      · rename_i order
        cases read
        obtain ⟨rest, same, own⟩ | past := count?_cut count
        · obtain ⟨others, rfl, rfl⟩ := exists_of_continued_eq_cons (by decide) same.symm
          exact .inl ⟨others, rfl, by simp only [most?, own, Option.bind_some, order, if_true]⟩
        · exact .inr ((List.suffix_cons _ _).trans past)
      · cases read
    · cases read

theorem boundsFrom?_cut {low least : Nat} {most : Option Nat}
    (read : boundsFrom? modes low (continued text more) = some (least, most, left)) :
    (∃ rest, left = continued rest more ∧ boundsFrom? modes low text = some (least, most, rest)) ∨ left <:+ more := by
  unfold boundsFrom? at read
  split at read
  · rename_i starts
    obtain ⟨behind, rfl, rfl⟩ := exists_of_continued_eq_cons (by decide) starts
    obtain kept | past := modes.skip_cut behind more
    · rw [kept] at read
      exact most?_cut read
    · exact .inr ((most?_suffix read).trans past)
  · rename_i starts
    obtain ⟨behind, rfl, rfl⟩ := exists_of_continued_eq_cons (by decide) starts
    cases read
    exact .inl ⟨behind, rfl, rfl⟩
  · cases read

theorem bounds?_cut {least : Nat} {most : Option Nat}
    (read : bounds? modes (continued text more) = some (least, most, left)) :
    (∃ rest, left = continued rest more ∧ bounds? modes text = some (least, most, rest)) ∨ left <:+ more := by
  obtain kept | past := modes.skip_cut text more
  · rw [bounds?_eq] at read ⊢
    obtain ⟨⟨low, after⟩, count, read⟩ := Option.bind_eq_some_iff.1 read
    rw [kept] at count
    obtain ⟨rest, rfl, own⟩ | past := count?_cut count
    · rw [own]
      exact boundsFrom?_cut read
    · exact .inr ((boundsFrom?_suffix read).trans past)
  · exact .inr ((bounds?_suffix read).trans past)

theorem repetition?_cut {c : Char} {least : Nat} {most : Option Nat}
    (repeats : repetition? modes (continued (c :: text) more) = some (some (least, most, left))) :
    (∃ rest, left = continued rest more ∧ repetition? modes (c :: text) = some (some (least, most, rest))) ∨
      left <:+ more := by
  rw [continued_cons] at repeats
  unfold repetition? at repeats
  split at repeats
  iterate 3
    · rename_i same
      cases same
      cases repeats
      exact .inl ⟨_, skipShortest_continued text more, rfl⟩
  · rename_i same
    cases same
    obtain ⟨⟨low, high, after⟩, bounds, same⟩ := Option.map_eq_some_iff.1 repeats
    cases same
    obtain ⟨rest, rfl, own⟩ | past := bounds?_cut bounds
    · obtain kept | past := modes.skip_cut rest more
      · simp only [kept, skipShortest_continued]
        refine .inl ⟨_, rfl, ?_⟩
        rw [repetition?, own]
        rfl
      · exact .inr ((skipShortest_suffix _).trans past)
    · exact .inr (((skipShortest_suffix _).trans (modes.skip_suffix after)).trans past)
  · cases repeats

theorem escaped?_cut {expr : Expr} (read : escaped? modes (continued text more) = some (expr, left)) :
    Cuts more (escaped? modes text) expr left ∨ Escape.Dangles modes more left := by
  unfold escaped? at read ⊢
  split at read
  · rename_i escape
    obtain ⟨set, literal, same⟩ := Option.map_eq_some_iff.1 read
    cases same
    obtain cut | ⟨⟨condition, same⟩, -⟩ := Escape.read?_cut escape
    · obtain ⟨rest, rfl, own⟩ | past := cut
      · exact .inl (.inl ⟨rest, rfl, by simp only [own, literal, Option.map_some]⟩)
      · exact .inl (.inr past)
    · cases same
  · rename_i escape
    cases read
    obtain cut | ⟨⟨condition, same⟩, -⟩ := Escape.read?_cut escape
    · obtain ⟨rest, rfl, own⟩ | past := cut
      · exact .inl (.inl ⟨rest, rfl, by simp only [own]⟩)
      · exact .inl (.inr past)
    · cases same
  · rename_i escape
    cases read
    obtain cut | ⟨-, dangles⟩ := Escape.read?_cut escape
    · obtain ⟨rest, rfl, own⟩ | past := cut
      · exact .inl (.inl ⟨rest, rfl, by simp only [own]⟩)
      · exact .inl (.inr past)
    · exact .inr dangles
  · cases read

theorem primitive?_cut {c : Char} {expr : Expr}
    (read : primitive? modes (continued (c :: text) more) = some (expr, left)) :
    Cuts more (primitive? modes (c :: text)) expr left ∨ Escape.Dangles modes more left := by
  rw [continued_cons, primitive?.eq_def] at read
  split at read
  · cases read
  · rename_i same
    cases same
    exact escaped?_cut read
  · rename_i same
    cases same
    obtain ⟨set, dot, same⟩ := Option.map_eq_some_iff.1 read
    cases same
    exact .inl (.inl ⟨text, rfl, by simp only [primitive?, dot, Option.map_some]⟩)
  · rename_i same
    cases same
    cases read
    exact .inl (.inl ⟨text, rfl, rfl⟩)
  · rename_i same
    cases same
    cases read
    exact .inl (.inl ⟨text, rfl, rfl⟩)
  · rename_i same
    cases same
    obtain ⟨⟨set, after⟩, inside, same⟩ := Option.map_eq_some_iff.1 read
    cases same
    obtain ⟨rest, same, own⟩ | past := Brackets.read?_cut inside
    · exact .inl (.inl ⟨rest, same, by simp only [primitive?, own, Option.map_some]⟩)
    · exact .inl (.inr past)
  · rename_i noEscape noDot noCaret noDollar noBracket same
    cases same
    obtain ⟨set, literal, same⟩ := Option.map_eq_some_iff.1 read
    cases same
    exact .inl (.inl ⟨text, rfl, by simp only [primitive?, literal, Option.map_some]⟩)

/-- No bounds are read behind a brace that dangles, unless they stand behind the parenthesis. -/
theorem bounds?_of_dangles {inside : List Char} {least : Nat} {most : Option Nat} (none : modes.skip inside = [])
    (read : bounds? modes (continued inside more) = some (least, most, left)) : left <:+ more := by
  obtain ⟨c, rest, ahead, -⟩ | ⟨-, same | past⟩ := modes.skip_continued inside more
  · rw [none] at ahead
    cases ahead
  · rw [bounds?_eq, same, count?_of_noDigit (dropWhile_parenthesis more) isDigit_parenthesis] at read
    cases read
  · exact (bounds?_suffix read).trans past

theorem body?_of_dangles {fuel : Nat} {earlier : List Expr} {parts : List Part} {reading after : Reading} {expr : Expr}
    (dangles : Escape.Dangles reading.modes more reading.text)
    (read : body? fuel earlier parts reading = some (expr, after)) : after.text <:+ more := by
  obtain ⟨inside, starts, none⟩ := dangles
  have ahead : reading.modes.skip reading.text = '\x7b' :: continued inside more := by
    rw [starts]
    exact Modes.skip_of_shown (by decide) (by decide) _
  cases fuel with
  | zero => cases read
  | succ fuel =>
    rw [body?_of_plain ahead (by decide), repetition?] at read
    cases bounds : bounds? reading.modes (continued inside more) with
    | none =>
      rw [bounds] at read
      cases read
    | some found =>
      obtain ⟨least, most, behind⟩ := found
      rw [bounds] at read
      obtain ⟨others, -, read⟩ := Option.bind_eq_some_iff.1 read
      have left := (skipShortest_suffix _).trans (reading.modes.skip_suffix behind)
      exact ((body?_suffix read).trans left).trans (bounds?_of_dangles none bounds)

/-- A group is cut at the parenthesis: with enough fuel it is read from the text alone in the same way, unless reading
has gone past the parenthesis. -/
def CutsBody (more : List Char) (fuel : Nat) : Prop :=
  ∀ {fuel' : Nat} {earlier : List Expr} {parts : List Part} {reading after : Reading} {expr : Expr},
    reading.text.length < fuel → body? fuel' earlier parts (reading.continued more) = some (expr, after) →
      (∃ own : Reading, after = own.continued more ∧ body? fuel earlier parts reading = some (expr, own)) ∨
        after.text <:+ more

/-- A nested group that ends with its own parenthesis does so in the text alone, unless its parenthesis is the one behind
the text, which the text alone ends without. -/
theorem nested_cut {fuel fuel' : Nat} {inside : Reading} {inner : Expr} {rest : List Char} {modes : Modes}
    {names : List (List Char)} (cuts : CutsBody more fuel) (enough : inside.text.length < fuel)
    (read : body? fuel' [] [] (inside.continued more) = some (inner, ⟨')' :: rest, modes, names⟩)) :
    (∃ own, rest = continued own more ∧ body? fuel [] [] inside = some (inner, ⟨')' :: own, modes, names⟩)) ∨
      rest <:+ more := by
  obtain ⟨after, same, own⟩ | past := cuts enough read
  · obtain ⟨text, modes, names⟩ := after
    cases text with
    | nil =>
      cases same
      exact .inr List.suffix_rfl
    | cons d text =>
      cases same
      exact .inl ⟨text, rfl, own⟩
  · exact .inr ((List.suffix_cons _ _).trans past)

/-- A step is made in the text alone as well, or it goes past the parenthesis, or it leaves a brace that dangles. -/
theorem Move.cut {fuel fuel' : Nat} {earlier : List Expr} {parts : List Part} {reading : Reading} {next : Progress}
    (cuts : CutsBody more fuel) (fits : reading.text.length ≤ fuel)
    (move : Move fuel' ⟨earlier, parts, reading.continued more⟩ next) :
    (∃ own : Progress, next = ⟨own.earlier, own.parts, own.reading.continued more⟩ ∧
        Move fuel ⟨earlier, parts, reading⟩ own) ∨
      next.reading.text <:+ more ∨ Escape.Dangles next.reading.modes more next.reading.text := by
  obtain ⟨c, text, ahead, aheadWhole⟩ | ⟨-, past⟩ := reading.modes.skip_continued reading.text more
  · have shorter := Modes.length_lt_of_ahead ahead
    cases move with
    | branch starts =>
      cases aheadWhole.symm.trans starts
      exact .inl ⟨⟨_, _, { reading with text := text }⟩, rfl, .branch ahead⟩
    | change starts opens =>
      cases aheadWhole.symm.trans starts
      obtain ⟨own, same, ownOpens⟩ | past := opening?_cut opens
      · cases own with
        | change modes rest =>
          cases same
          exact .inl ⟨⟨_, _, ⟨rest, _, reading.names⟩⟩, rfl, .change ahead ownOpens⟩
        | group inside => cases same
      · exact .inr (.inl past)
    | group starts opens read =>
      cases aheadWhole.symm.trans starts
      obtain ⟨own, same, ownOpens⟩ | past := opening?_cut opens
      · cases own with
        | change modes rest => cases same
        | group inside =>
          cases same
          have inner := ((opening?_suffix ownOpens).trans (reading.modes.skip_suffix text)).length_le
          simp only [Opening.left] at inner
          obtain ⟨rest, rfl, ownRead⟩ | past := nested_cut cuts (by omega) read
          · exact .inl ⟨⟨_, _, ⟨rest, reading.modes, _⟩⟩, rfl, .group ahead ownOpens ownRead⟩
          · exact .inr (.inl past)
      · have inner := (List.suffix_cons _ _).trans (body?_suffix read)
        exact .inr (.inl (inner.trans past))
    | again repeats last =>
      have starts : (reading.continued more).modes.skip (reading.continued more).text = continued (c :: text) more :=
        aheadWhole
      rw [starts] at repeats
      obtain ⟨rest, rfl, own⟩ | past := repetition?_cut repeats
      · rw [← ahead] at own
        exact .inl ⟨⟨_, _, { reading with text := rest }⟩, rfl, .again own last⟩
      · exact .inr (.inl past)
    | primitive starts plain single read =>
      cases aheadWhole.symm.trans starts
      have ownSingle : repetition? reading.modes (c :: text) = some none :=
        repetition?_eq_some_none_iff.2 (repetition?_eq_some_none_iff.1 single)
      obtain cut | dangles := primitive?_cut read
      · obtain ⟨rest, rfl, own⟩ | past := cut
        · exact .inl ⟨⟨_, _, { reading with text := rest }⟩, rfl, .primitive ahead plain ownSingle own⟩
        · exact .inr (.inl past)
      · exact .inr (.inr dangles)
  · exact .inr (.inl ((move.takesNext body?_suffix).past past))

theorem ends_cut {fuel : Nat} {earlier : List Expr} {parts : List Part} {reading after : Reading}
    (ends : Ends ((reading.continued more).modes.skip (reading.continued more).text))
    (stops : after = { reading.continued more with
      text := (reading.continued more).modes.skip (reading.continued more).text }) :
    (∃ own : Reading, after = own.continued more ∧
        body? (fuel + 1) earlier parts reading = some (branches earlier parts, own)) ∨ after.text <:+ more := by
  subst stops
  obtain ⟨c, text, ahead, aheadWhole⟩ | ⟨none, same | past⟩ := reading.modes.skip_continued reading.text more
  · obtain empty | ⟨rest, starts⟩ := ends
    · cases aheadWhole.symm.trans empty
    · cases aheadWhole.symm.trans starts
      refine .inl ⟨{ reading with text := ')' :: text }, ?_, by rw [body?_of_ends (.inr ⟨text, ahead⟩), ahead]⟩
      exact congrArg (Reading.mk · reading.modes reading.names) aheadWhole
  · refine .inl ⟨{ reading with text := [] }, ?_, by rw [body?_of_ends (.inl none), none]⟩
    exact congrArg (Reading.mk · reading.modes reading.names) same
  · exact .inr past

/-- Every group is cut at the parenthesis. -/
theorem cutsBody (more : List Char) (fuel : Nat) : CutsBody more fuel := by
  induction fuel with
  | zero =>
    intro fuel' earlier parts reading after expr enough read
    omega
  | succ fuel ih =>
    intro fuel' earlier parts reading after expr enough read
    cases fuel' with
    | zero => cases read
    | succ fuel' =>
      obtain ⟨ends, rfl, stops⟩ | ⟨next, move, read⟩ := move_of_body? read
      · exact ends_cut ends stops
      · obtain ⟨own, rfl, ownMove⟩ | past | dangles := move.cut ih (Nat.le_of_lt_succ enough)
        · have shorter := Nat.lt_of_lt_of_le ownMove.length_lt (Nat.le_of_lt_succ enough)
          have goesOn : body? (fuel + 1) earlier parts reading = body? fuel own.earlier own.parts own.reading :=
            body?_of_move ownMove
          rw [goesOn]
          exact ih shorter read
        · exact .inr ((body?_suffix read).trans past)
        · exact .inr (body?_of_dangles dangles read)

end Grammar

end Criteria.Pattern
