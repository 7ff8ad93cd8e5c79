import Criteria.Proofs.Pattern.Closing.Grammar

/-!
What reading leaves. Whatever is read from a text, what is left of it is an end of the text, and every step of
reading a group takes at least one character off; so the length of a text is fuel enough to read it.
-/
namespace Criteria.Pattern

/-- Of what comes next at least the first character is taken. -/
def TakesNext (modes : Modes) (text left : List Char) : Prop :=
  ∃ c others, modes.skip text = c :: others ∧ left <:+ others

theorem TakesNext.suffix {modes : Modes} {text left : List Char} (takes : TakesNext modes text left) : left <:+ text := by
  obtain ⟨c, others, ahead, behind⟩ := takes
  exact suffix_cons_trans behind (Modes.ahead_suffix ahead)

theorem TakesNext.behind {modes : Modes} {c : Char} {text left : List Char} (takes : TakesNext modes (c :: text) left) :
    left <:+ text := by
  obtain ⟨d, others, ahead, behind⟩ := takes
  obtain same | inside := List.suffix_cons_iff.1 (Modes.ahead_suffix ahead)
  · obtain ⟨rfl, rfl⟩ := List.cons.inj same
    exact behind
  · exact (behind.trans (List.suffix_cons d others)).trans inside

theorem scan_suffix (modes : Modes) (test : Char → Bool) (fuel : Nat) (text : List Char) :
    (scan modes test fuel text).2 <:+ text := by
  induction fuel generalizing text with
  | zero => exact List.suffix_rfl
  | succ fuel ih =>
    cases text with
    | nil => exact List.suffix_rfl
    | cons c rest =>
      rw [scan]
      split
      · exact ((ih _).trans (modes.skip_suffix rest)).trans (List.suffix_cons c rest)
      · exact List.suffix_rfl

namespace Escape

variable {modes : Modes} {text rest : List Char}

theorem fixedHex?_suffix {count value result : Nat} (read : fixedHex? modes count value text = some (result, rest)) :
    rest <:+ text := by
  induction count generalizing value text with
  | zero =>
    cases read
    exact List.suffix_rfl
  | succ count ih =>
    rw [fixedHex?] at read
    split at read
    · cases read
    · rename_i ahead
      split at read
      · exact suffix_cons_trans (ih read) (Modes.ahead_suffix ahead)
      · cases read

theorem takesNext_of_fixedHex? {count value result : Nat}
    (read : fixedHex? modes (count + 1) value text = some (result, rest)) : TakesNext modes text rest := by
  rw [fixedHex?] at read
  split at read
  · cases read
  · rename_i ahead
    split at read
    · exact ⟨_, _, ahead, fixedHex?_suffix read⟩
    · cases read

theorem takesNext_of_bracedHex? {fuel result : Nat} {value? : Option Nat}
    (read : bracedHex? modes fuel value? text = some (result, rest)) : TakesNext modes text rest := by
  induction fuel generalizing value? text with
  | zero => cases read
  | succ fuel ih =>
    rw [bracedHex?] at read
    split at read
    · cases read
    · rename_i ahead
      obtain ⟨value, -, same⟩ := Option.map_eq_some_iff.1 read
      cases same
      exact ⟨_, _, ahead, List.suffix_rfl⟩
    · rename_i ahead
      split at read
      · exact ⟨_, _, ahead, (ih read).suffix⟩
      · cases read

theorem takesNext_of_codePoint? {letter : Char} {escape : Escape}
    (read : codePoint? modes letter text = some (escape, rest)) : TakesNext modes text rest := by
  rw [codePoint?] at read
  simp only [Option.bind_eq_bind] at read
  split at read
  · rename_i ahead
    obtain ⟨⟨value, after⟩, digits, read⟩ := Option.bind_eq_some_iff.1 read
    obtain ⟨c, -, same⟩ := Option.bind_eq_some_iff.1 read
    cases same
    exact ⟨_, _, ahead, (takesNext_of_bracedHex? digits).suffix⟩
  · obtain ⟨⟨value, after⟩, digits, read⟩ := Option.bind_eq_some_iff.1 read
    obtain ⟨c, -, same⟩ := Option.bind_eq_some_iff.1 read
    cases same
    obtain ⟨count, needed⟩ : ∃ count, (if letter = 'x' then 2 else if letter = 'u' then 4 else 8) = count + 1 := by
      split
      · exact ⟨1, rfl⟩
      · split
        · exact ⟨3, rfl⟩
        · exact ⟨7, rfl⟩
    rw [needed] at digits
    cases ahead : modes.skip text with
    | nil =>
      rw [ahead, fixedHex?_nil (Nat.succ_ne_zero count)] at digits
      cases digits
    | cons d others =>
      rw [ahead] at digits
      exact ⟨d, others, ahead, (takesNext_of_fixedHex? digits).behind⟩

theorem takesNext_of_braced? {fuel : Nat} {name : List Char} (read : braced? modes fuel text = some (name, rest)) :
    TakesNext modes text rest := by
  induction fuel generalizing name text with
  | zero => cases read
  | succ fuel ih =>
    rw [braced?] at read
    split at read
    · cases read
    · rename_i ahead
      cases read
      exact ⟨_, _, ahead, List.suffix_rfl⟩
    · rename_i ahead
      obtain ⟨⟨name, after⟩, inside, same⟩ := Option.map_eq_some_iff.1 read
      cases same
      exact ⟨_, _, ahead, (ih inside).suffix⟩

theorem takesNext_of_propertyName? {name : List Char} (read : propertyName? modes text = some (name, rest)) :
    TakesNext modes text rest := by
  unfold propertyName? at read
  split at read
  · cases read
  · rename_i ahead
    exact ⟨_, _, ahead, (takesNext_of_braced? read).suffix⟩
  · cases read
  · rename_i ahead
    cases read
    exact ⟨_, _, ahead, List.suffix_rfl⟩

theorem takesNext_of_propertyClass? {negated : Bool} {escape : Escape}
    (read : propertyClass? modes negated text = some (escape, rest)) : TakesNext modes text rest := by
  rw [propertyClass?_eq] at read
  obtain ⟨⟨name, after⟩, named, read⟩ := Option.bind_eq_some_iff.1 read
  obtain ⟨found, -, same⟩ := Option.map_eq_some_iff.1 read
  cases same
  exact takesNext_of_propertyName? named

theorem wordBoundary?_suffix {escape : Escape} (read : wordBoundary? modes text = some (escape, rest)) :
    rest <:+ text := by
  rw [wordBoundary?.eq_def] at read
  split at read
  · rename_i inside
    split at read
    · cases read
    · rename_i c others ahead
      split at read
      · split at read
        · rename_i name after found
          obtain ⟨edge, -, same⟩ := Option.map_eq_some_iff.1 read
          cases same
          have left := scan_suffix modes isEdgeLetter (others.length + 1) (c :: others)
          rw [← edgeName_eq_scan, found] at left
          have behind := (suffix_cons_trans List.suffix_rfl left).trans (Modes.ahead_suffix ahead)
          exact behind.trans (List.suffix_cons _ _)
        · cases read
      · cases read
        exact List.suffix_rfl
  · cases read
    exact List.suffix_rfl

theorem read?_suffix {c : Char} {escape : Escape} (read : read? modes (c :: text) = some (escape, rest)) :
    rest <:+ text := by
  rw [read?.eq_def] at read
  simp only at read
  split at read
  · cases read
    exact List.suffix_rfl
  · split at read
    · exact (takesNext_of_codePoint? read).suffix
    · exact (takesNext_of_codePoint? read).suffix
    · exact (takesNext_of_codePoint? read).suffix
    · exact (takesNext_of_propertyClass? read).suffix
    · exact (takesNext_of_propertyClass? read).suffix
    iterate 6
      · obtain ⟨set, -, same⟩ := Option.map_eq_some_iff.1 read
        cases same
        exact List.suffix_rfl
    iterate 8
      · cases read
        exact List.suffix_rfl
    · exact wordBoundary?_suffix read
    iterate 3
      · cases read
        exact List.suffix_rfl
    · cases read

end Escape

namespace Brackets

variable {modes : Modes} {text rest : List Char}

theorem nameBody?_suffix {negated excluded : Bool} {set : CharSet}
    (read : nameBody? negated text = some (excluded, set, rest)) : rest <:+ text := by
  unfold nameBody? at read
  split at read
  · rename_i found
    obtain ⟨members, -, same⟩ := Option.bind_eq_some_iff.1 read
    cases same
    have left : _ <:+ text := List.dropWhile_suffix (· != ':')
    rw [found] at left
    exact suffix_cons_trans (List.suffix_cons _ _) left
  · cases read

theorem named?_suffix {negated : Bool} {set : CharSet} (read : named? text = some (negated, set, rest)) :
    rest <:+ text := by
  cases text with
  | nil => cases read
  | cons c text =>
    by_cases colon : c = ':'
    · subst colon
      by_cases negation : text.head? = some '^'
      · obtain ⟨inside, rfl⟩ := List.head?_eq_some_iff.1 negation
        rw [named?_of_circumflex] at read
        exact suffix_cons_trans (nameBody?_suffix read) (List.suffix_cons _ _)
      · rw [named?_of_colon negation] at read
        exact (nameBody?_suffix read).trans (List.suffix_cons _ _)
    · rw [named?_of_other colon] at read
      cases read

theorem leading_suffix (modes : Modes) (negated : Bool) (text : List Char) : (leading modes negated text).2.2 <:+ text := by
  have hyphens := scan_suffix modes (· == '-') text.length text
  unfold leading
  rw [leadingHyphens_eq_scan]
  split
  · rename_i found
    rw [← congrArg Prod.snd found]
    exact hyphens
  · split
    · exact (modes.skip_suffix _).trans (List.suffix_cons _ _)
    · exact List.suffix_rfl

theorem opening_suffix (modes : Modes) (text : List Char) : (opening modes text).2.2 <:+ modes.skip text := by
  cases ahead : modes.skip text with
  | nil =>
    simp only [opening_of_nil ahead, List.nil_suffix]
  | cons c others =>
    by_cases negation : c = '^'
    · subst negation
      rw [opening_of_circumflex ahead]
      have inside := (leading_suffix modes true _).trans (modes.skip_suffix others)
      exact inside.trans (List.suffix_cons _ _)
    · rw [opening_of_other ahead negation]
      exact leading_suffix modes false _

theorem item?_suffix {c : Char} {item : Escape} (read : item? modes (c :: text) = some (item, rest)) :
    rest <:+ text := by
  rw [item?.eq_def] at read
  split at read
  · rename_i same
    cases same
  · rename_i same
    cases same
    cases text with
    | nil => cases read
    | cons second text => exact (Escape.read?_suffix read).trans (List.suffix_cons _ _)
  · rename_i same
    cases same
    cases read
    exact List.suffix_rfl

theorem elementFrom?_suffix {first : Escape} {set : CharSet}
    (read : elementFrom? modes first text = some (set, rest)) : rest <:+ modes.skip text := by
  unfold elementFrom? at read
  split at read
  · cases read
  · rename_i others ahead
    rw [ahead]
    split at read
    · obtain ⟨found, -, same⟩ := Option.bind_eq_some_iff.1 read
      cases same
      exact List.suffix_rfl
    · obtain ⟨⟨last, final⟩, item, read⟩ := Option.bind_eq_some_iff.1 read
      obtain ⟨found, -, same⟩ := Option.bind_eq_some_iff.1 read
      cases same
      cases next : modes.skip others with
      | nil =>
        rw [next] at item
        cases item
      | cons d behind =>
        rw [next] at item
        exact (suffix_cons_trans (item?_suffix item) (Modes.ahead_suffix next)).trans (List.suffix_cons '-' others)
  · obtain ⟨found, -, same⟩ := Option.bind_eq_some_iff.1 read
    cases same
    exact List.suffix_rfl

theorem element?_suffix {c : Char} {set : CharSet} (read : element? modes (c :: text) = some (set, rest)) :
    rest <:+ text := by
  rw [element?_eq] at read
  obtain ⟨⟨first, after⟩, item, read⟩ := Option.bind_eq_some_iff.1 read
  exact ((elementFrom?_suffix read).trans (modes.skip_suffix after)).trans (item?_suffix item)

theorem takesNext_of_elements? {fuel : Nat} {pending : Pending} {sofar set : CharSet}
    (read : elements? modes fuel pending sofar text = some (set, rest)) : TakesNext modes text rest := by
  induction fuel generalizing pending sofar set text rest with
  | zero => cases read
  | succ fuel ih =>
    rw [elements?.eq_def] at read
    simp only at read
    split at read
    · cases read
    · rename_i ahead
      cases read
      exact ⟨_, _, ahead, List.suffix_rfl⟩
    iterate 3
      · rename_i ahead
        exact ⟨_, _, ahead, (ih read).suffix.trans (List.suffix_cons _ _)⟩
    · rename_i inside ahead
      split at read
      · rename_i named
        split at read
        · exact ⟨_, _, ahead, (ih read).suffix.trans (named?_suffix named)⟩
        · cases read
      · have start := (opening_suffix modes inside).trans (modes.skip_suffix inside)
        split at read
        · rename_i inner
          split at read
          · exact ⟨_, _, ahead, ((ih read).suffix.trans (ih inner).suffix).trans start⟩
          · cases read
        · cases read
    · rename_i noEnd _ _ _ _ _
      cases ahead : modes.skip text with
      | nil => exact absurd ahead noEnd
      | cons c others =>
        rw [ahead] at read
        split at read
        · rename_i element
          exact ⟨c, others, ahead, (ih read).suffix.trans (element?_suffix element)⟩
        · cases read

theorem read?_suffix {set : CharSet} (read : read? modes text = some (set, rest)) : rest <:+ text := by
  rw [read?] at read
  simp only [Option.bind_eq_bind] at read
  obtain ⟨⟨members, after⟩, inner, read⟩ := Option.bind_eq_some_iff.1 read
  obtain ⟨found, -, same⟩ := Option.bind_eq_some_iff.1 read
  cases same
  exact ((takesNext_of_elements? inner).suffix.trans (opening_suffix modes text)).trans (modes.skip_suffix text)

end Brackets

namespace Grammar

variable {modes : Modes} {text rest : List Char}

theorem modeLetters?_suffix {on : Bool} {seen letters : List Char} {after : Modes}
    (read : modeLetters? on seen modes text = some (letters, after, rest)) : rest <:+ text := by
  induction text generalizing on seen modes with
  | nil => cases read
  | cons c text ih =>
    rw [modeLetters?] at read
    split at read
    · split at read
      · cases read
      · cases read
        exact List.suffix_rfl
    · split at read
      · cases read
      · split at read
        · exact (ih read).trans (List.suffix_cons c text)
        · split at read
          · exact (ih read).trans (List.suffix_cons c text)
          · cases read

theorem groupName?_suffix {name : List Char} (read : groupName? text = some (name, rest)) : rest <:+ text := by
  unfold groupName? at read
  split at read
  · rename_i dropped
    split at read
    · cases read
      have left : _ <:+ text := List.dropWhile_suffix (· != '>')
      rw [dropped] at left
      exact suffix_cons_trans List.suffix_rfl left
    · cases read
  · cases read

def Opening.left : Opening → List Char
  | .change _ rest => rest
  | .group inside => inside.text

theorem namedGroup?_suffix {reading : Reading} {opening : Opening}
    (opens : namedGroup? reading text = some opening) : opening.left <:+ text := by
  unfold namedGroup? at opens
  split at opens
  · rename_i named
    split at opens
    · cases opens
    · cases opens
      exact groupName?_suffix named
  · cases opens

theorem opening?_suffix {reading : Reading} {opening : Opening} (opens : opening? reading text = some opening) :
    opening.left <:+ reading.modes.skip text := by
  unfold opening? at opens
  split at opens
  · cases opens
  · cases opens
  · cases opens
  · cases opens
  · rename_i ahead
    rw [ahead]
    have inside := (namedGroup?_suffix opens).trans (List.suffix_cons '<' _)
    exact (inside.trans (List.suffix_cons 'P' _)).trans (List.suffix_cons '?' _)
  · rename_i ahead
    rw [ahead]
    exact ((namedGroup?_suffix opens).trans (List.suffix_cons '<' _)).trans (List.suffix_cons '?' _)
  · rename_i ahead
    rw [ahead]
    split at opens
    · rename_i letters
      cases opens
      exact (suffix_cons_trans List.suffix_rfl (modeLetters?_suffix letters)).trans (List.suffix_cons '?' _)
    · rename_i letters
      cases opens
      exact (suffix_cons_trans List.suffix_rfl (modeLetters?_suffix letters)).trans (List.suffix_cons '?' _)
    · cases opens
  · cases opens
    exact List.suffix_rfl

theorem count?_suffix {value : Nat} (read : count? modes text = some (value, rest)) : rest <:+ text := by
  simp only [count?, countDigits_eq_scan, skipCountBlanks_eq_scan] at read
  split at read
  · cases read
  · cases read
    exact ((scan_suffix ..).trans (scan_suffix ..)).trans (List.dropWhile_suffix _)

theorem most?_suffix {low least : Nat} {most : Option Nat} (read : most? modes low text = some (least, most, rest)) :
    rest <:+ text := by
  unfold most? at read
  split at read
  · cases read
    exact List.suffix_cons _ _
  · obtain ⟨⟨high, last⟩, count, read⟩ := Option.bind_eq_some_iff.1 read
    simp only at read
    split at read
    · split at read
      · cases read
        exact suffix_cons_trans List.suffix_rfl (count?_suffix count)
      · cases read
    · cases read

theorem boundsFrom?_suffix {low least : Nat} {most : Option Nat}
    (read : boundsFrom? modes low text = some (least, most, rest)) : rest <:+ text := by
  unfold boundsFrom? at read
  split at read
  · exact ((most?_suffix read).trans (modes.skip_suffix _)).trans (List.suffix_cons _ _)
  · cases read
    exact List.suffix_cons _ _
  · cases read

theorem bounds?_suffix {least : Nat} {most : Option Nat} (read : bounds? modes text = some (least, most, rest)) :
    rest <:+ modes.skip text := by
  rw [bounds?_eq] at read
  obtain ⟨⟨low, after⟩, count, read⟩ := Option.bind_eq_some_iff.1 read
  exact (boundsFrom?_suffix read).trans (count?_suffix count)

theorem skipShortest_suffix (text : List Char) : skipShortest text <:+ text := by
  unfold skipShortest
  split
  · exact List.suffix_cons _ _
  · exact List.suffix_rfl

theorem repetition?_suffix {c : Char} {least : Nat} {most : Option Nat}
    (repeats : repetition? modes (c :: text) = some (some (least, most, rest))) : rest <:+ text := by
  unfold repetition? at repeats
  split at repeats
  iterate 3
    · rename_i same
      cases same
      cases repeats
      exact skipShortest_suffix text
  · rename_i same
    cases same
    obtain ⟨⟨low, high, after⟩, bounds, same⟩ := Option.map_eq_some_iff.1 repeats
    cases same
    have left := (bounds?_suffix bounds).trans (modes.skip_suffix text)
    exact ((skipShortest_suffix _).trans (modes.skip_suffix after)).trans left
  · cases repeats

theorem escaped?_suffix {c : Char} {expr : Expr} (read : escaped? modes (c :: text) = some (expr, rest)) :
    rest <:+ text := by
  unfold escaped? at read
  split at read
  · rename_i escape
    obtain ⟨set, -, same⟩ := Option.map_eq_some_iff.1 read
    cases same
    exact Escape.read?_suffix escape
  · rename_i escape
    cases read
    exact Escape.read?_suffix escape
  · rename_i escape
    cases read
    exact Escape.read?_suffix escape
  · cases read

theorem primitive?_suffix {c : Char} {expr : Expr} (read : primitive? modes (c :: text) = some (expr, rest)) :
    rest <:+ text := by
  rw [primitive?.eq_def] at read
  split at read
  · cases read
  · rename_i same
    cases same
    cases text with
    | nil => cases read
    | cons second text => exact (escaped?_suffix read).trans (List.suffix_cons _ _)
  · rename_i same
    cases same
    obtain ⟨set, -, same⟩ := Option.map_eq_some_iff.1 read
    cases same
    exact List.suffix_rfl
  · rename_i same
    cases same
    cases read
    exact List.suffix_rfl
  · rename_i same
    cases same
    cases read
    exact List.suffix_rfl
  · rename_i same
    cases same
    obtain ⟨⟨set, after⟩, inside, same⟩ := Option.map_eq_some_iff.1 read
    cases same
    exact Brackets.read?_suffix inside
  · rename_i same
    cases same
    obtain ⟨set, -, same⟩ := Option.map_eq_some_iff.1 read
    cases same
    exact List.suffix_rfl

theorem Move.takesNext {fuel : Nat} {start next : Progress} (move : Move fuel start next)
    (inner : ∀ {inside after expr}, body? fuel [] [] inside = some (expr, after) → after.text <:+ inside.text) :
    TakesNext start.reading.modes start.reading.text next.reading.text := by
  cases move with
  | branch ahead => exact ⟨_, _, ahead, List.suffix_rfl⟩
  | change ahead opens => exact ⟨_, _, ahead, (opening?_suffix opens).trans (Modes.skip_suffix _ _)⟩
  | group ahead opens read =>
    have inside := (List.suffix_cons _ _).trans (inner read)
    exact ⟨_, _, ahead, (inside.trans (opening?_suffix opens)).trans (Modes.skip_suffix _ _)⟩
  | again repeats last =>
    obtain ⟨c, text, ahead, -⟩ := head_of_repetition? repeats
    rw [ahead] at repeats
    exact ⟨c, text, ahead, repetition?_suffix repeats⟩
  | primitive ahead plain single read => exact ⟨_, _, ahead, primitive?_suffix read⟩

theorem body?_suffix {fuel : Nat} {earlier : List Expr} {parts : List Part} {reading after : Reading} {expr : Expr}
    (read : body? fuel earlier parts reading = some (expr, after)) : after.text <:+ reading.text := by
  induction fuel generalizing earlier parts reading after expr with
  | zero => cases read
  | succ fuel ih =>
    obtain ⟨-, -, rfl⟩ | ⟨next, move, rest⟩ := move_of_body? read
    · exact reading.modes.skip_suffix reading.text
    · exact (ih rest).trans (move.takesNext ih).suffix

theorem Move.length_lt {fuel : Nat} {start next : Progress} (move : Move fuel start next) :
    next.reading.text.length < start.reading.text.length := by
  obtain ⟨c, others, ahead, behind⟩ := move.takesNext body?_suffix
  exact Nat.lt_of_le_of_lt behind.length_le (Modes.length_lt_of_ahead ahead)

/-- What a step does with more fuel, if the length of the text is fuel enough. -/
theorem Move.of_enough {fuel enough : Nat} {start next : Progress} (move : Move fuel start next)
    (inner : ∀ {inside after expr}, inside.text.length < enough →
      body? fuel [] [] inside = some (expr, after) → body? enough [] [] inside = some (expr, after))
    (fits : start.reading.text.length ≤ enough) : Move enough start next := by
  cases move with
  | branch ahead => exact .branch ahead
  | change ahead opens => exact .change ahead opens
  | @group earlier parts reading inside rest after expr modes names ahead opens read =>
    have shorter := Modes.length_lt_of_ahead ahead
    have shorter' := ((opening?_suffix opens).trans (Modes.skip_suffix _ _)).length_le
    simp only [Opening.left] at shorter' fits
    exact .group ahead opens (inner (by omega) read)
  | again repeats last => exact .again repeats last
  | primitive ahead plain single read => exact .primitive ahead plain single read

/-- The length of a text is fuel enough to read a group of it. -/
theorem body?_of_enough {fuel enough : Nat} {earlier : List Expr} {parts : List Part} {reading after : Reading}
    {expr : Expr} (fits : reading.text.length < enough) (read : body? fuel earlier parts reading = some (expr, after)) :
    body? enough earlier parts reading = some (expr, after) := by
  induction enough generalizing fuel earlier parts reading after expr with
  | zero => omega
  | succ enough ih =>
    cases fuel with
    | zero => cases read
    | succ fuel =>
      obtain ⟨ends, rfl, rfl⟩ | ⟨next, move, rest⟩ := move_of_body? read
      · exact body?_of_ends ends
      · have goesOn := body?_of_move (move.of_enough ih (Nat.le_of_lt_succ fits))
        have shorter := Nat.lt_of_lt_of_le move.length_lt (Nat.le_of_lt_succ fits)
        exact goesOn.trans (ih shorter rest)

end Grammar

end Criteria.Pattern
