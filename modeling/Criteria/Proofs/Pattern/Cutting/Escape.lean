import Criteria.Proofs.Pattern.Remainder

/-!
Reading a text that goes on. What is read from a text with a closing parenthesis and more behind it is read from
the text alone in the same way, unless reading has taken the parenthesis as well; then only an end of what stands
behind the parenthesis is left. Here this is shown for scans and for escapes. One escape is an exception: an open
brace that the text ends with is left alone by a word boundary if something follows the brace.
-/
namespace Criteria.Pattern

/-- How something read from a continued text is read from the text: in the same way, with the continuation left
over, unless the parenthesis has been taken too. -/
def Cuts {α : Type} (more : List Char) (own : Option (α × List Char)) (value : α) (left : List Char) : Prop :=
  (∃ rest, left = continued rest more ∧ own = some (value, rest)) ∨ left <:+ more

theorem TakesNext.past {modes : Modes} {text left more : List Char} (takes : TakesNext modes text left)
    (past : Past more (modes.skip text)) : left <:+ more := by
  obtain ⟨c, others, ahead, behind⟩ := takes
  rw [ahead] at past
  exact behind.trans past.behind

section Scan

variable {modes : Modes} {test : Char → Bool} {text left more : List Char}

theorem scan_of_stops {c : Char} (stops : test c = false) (fuel : Nat) (others : List Char) :
    scan modes test fuel (c :: others) = ([], c :: others) := by
  cases fuel with
  | zero => rfl
  | succ fuel => rw [scan, if_neg (by simp [stops])]

/-- A scan that the parenthesis stops ends where it ends in the text, or in what stands behind the parenthesis. -/
theorem scan_cut {fuel more' : Nat} {found : List Char} (stops : test ')' = false) (enough : text.length ≤ fuel)
    (whole : (continued text more).length ≤ more')
    (read : scan modes test more' (continued text more) = (found, left)) :
    Cuts more (some (scan modes test fuel text)) found left := by
  induction fuel generalizing more' found text left with
  | zero =>
    obtain rfl : text = [] := List.eq_nil_of_length_eq_zero (by omega)
    rw [continued_nil, scan_of_stops stops] at read
    cases read
    exact .inl ⟨[], rfl, rfl⟩
  | succ fuel ih =>
    cases text with
    | nil =>
      rw [continued_nil, scan_of_stops stops] at read
      cases read
      exact .inl ⟨[], rfl, rfl⟩
    | cons c others =>
      rw [length_continued, List.length_cons] at whole
      rw [List.length_cons] at enough
      obtain ⟨more', rfl⟩ : ∃ less, more' = less + 1 := ⟨more' - 1, by omega⟩
      rw [continued_cons, scan] at read
      rw [scan]
      split at read
      · rename_i passed
        rw [if_pos passed]
        cases read
        obtain kept | past := modes.skip_cut others more
        · have shorter := (modes.skip_suffix others).length_le
          have fits : (modes.skip others).length ≤ fuel := by omega
          have fitsWhole : (continued (modes.skip others) more).length ≤ more' := by
            rw [length_continued]
            omega
          rw [kept]
          obtain ⟨rest, same, own⟩ | past := ih fits fitsWhole rfl
          · exact .inl ⟨rest, same, by rw [Option.some.inj own]⟩
          · exact .inr past
        · exact .inr ((scan_suffix ..).trans past)
      · rename_i refused
        rw [if_neg refused]
        cases read
        exact .inl ⟨c :: others, rfl, rfl⟩

end Scan

namespace Escape

variable {modes : Modes} {text left more : List Char}

theorem fixedHex?_cut {count value result : Nat}
    (read : fixedHex? modes count value (continued text more) = some (result, left)) :
    Cuts more (fixedHex? modes count value text) result left := by
  induction count generalizing value text with
  | zero =>
    cases read
    exact .inl ⟨text, rfl, rfl⟩
  | succ count ih =>
    obtain ⟨c, rest, ahead, aheadWhole⟩ | ⟨none, past⟩ := modes.skip_continued text more
    · simp only [fixedHex?, ahead, aheadWhole] at read ⊢
      cases digit : Text.hexDigit? c with
      | none =>
        rw [digit] at read
        cases read
      | some digit =>
        simp only [digit] at read
        exact ih read
    · exact .inr ((takesNext_of_fixedHex? read).past past)

theorem bracedHex?_cut {fuel more' result : Nat} {value? : Option Nat} (enough : text.length < fuel)
    (read : bracedHex? modes more' value? (continued text more) = some (result, left)) :
    Cuts more (bracedHex? modes fuel value? text) result left := by
  induction fuel generalizing more' value? text with
  | zero => omega
  | succ fuel ih =>
    cases more' with
    | zero => cases read
    | succ more' =>
      obtain ⟨c, rest, ahead, aheadWhole⟩ | ⟨none, past⟩ := modes.skip_continued text more
      · have shorter := Modes.length_lt_of_ahead ahead
        rw [bracedHex?, aheadWhole] at read
        rw [bracedHex?, ahead]
        split at read
        · rename_i same
          cases same
        · rename_i same
          cases same
          obtain ⟨value, held, same⟩ := Option.map_eq_some_iff.1 read
          cases same
          exact .inl ⟨rest, rfl, by simp only [held, Option.map_some]⟩
        · rename_i noBrace same
          cases same
          split at read
          · rename_i digit
            simp only [digit]
            exact ih (by omega) read
          · cases read
      · exact .inr ((takesNext_of_bracedHex? read).past past)

theorem codePoint?_cut {letter : Char} {escape : Escape}
    (read : codePoint? modes letter (continued text more) = some (escape, left)) :
    Cuts more (codePoint? modes letter text) escape left := by
  obtain ⟨c, rest, ahead, aheadWhole⟩ | ⟨none, past⟩ := modes.skip_continued text more
  · rw [codePoint?, aheadWhole] at read
    rw [codePoint?, ahead]
    simp only [Option.bind_eq_bind] at read ⊢
    split at read
    · rename_i same
      cases same
      obtain ⟨⟨value, after⟩, digits, read⟩ := Option.bind_eq_some_iff.1 read
      obtain ⟨named, character, same⟩ := Option.bind_eq_some_iff.1 read
      cases same
      obtain ⟨rest', same, own⟩ | past := bracedHex?_cut (Nat.lt_succ_self rest.length) digits
      · exact .inl ⟨rest', same, by simp only [own, Option.bind_some, character]⟩
      · exact .inr past
    · rename_i noBrace
      obtain ⟨⟨value, after⟩, digits, read⟩ := Option.bind_eq_some_iff.1 read
      obtain ⟨named, character, same⟩ := Option.bind_eq_some_iff.1 read
      cases same
      rw [← continued_cons] at digits
      obtain ⟨rest', same, own⟩ | past := fixedHex?_cut digits
      · refine .inl ⟨rest', same, ?_⟩
        split
        · rename_i same
          cases same
          exact absurd rfl (noBrace _)
        · simp only [own, Option.bind_some, character]
      · exact .inr past
  · exact .inr ((takesNext_of_codePoint? read).past past)

theorem braced?_cut {fuel more' : Nat} {name : List Char} (enough : text.length < fuel)
    (read : braced? modes more' (continued text more) = some (name, left)) :
    Cuts more (braced? modes fuel text) name left := by
  induction fuel generalizing more' name text with
  | zero => omega
  | succ fuel ih =>
    cases more' with
    | zero => cases read
    | succ more' =>
      obtain ⟨c, rest, ahead, aheadWhole⟩ | ⟨none, past⟩ := modes.skip_continued text more
      · have shorter := Modes.length_lt_of_ahead ahead
        rw [braced?, aheadWhole] at read
        rw [braced?, ahead]
        split at read
        · rename_i same
          cases same
        · rename_i same
          cases same
          cases read
          exact .inl ⟨rest, rfl, rfl⟩
        · rename_i noBrace same
          cases same
          obtain ⟨⟨name, after⟩, inside, same⟩ := Option.map_eq_some_iff.1 read
          cases same
          obtain ⟨rest', same, own⟩ | past := ih (by omega) inside
          · exact .inl ⟨rest', same, by simp only [own, Option.map_some]⟩
          · exact .inr past
      · exact .inr ((takesNext_of_braced? read).past past)

theorem propertyName?_cut {name : List Char} (read : propertyName? modes (continued text more) = some (name, left)) :
    Cuts more (propertyName? modes text) name left := by
  obtain ⟨c, rest, ahead, aheadWhole⟩ | ⟨none, past⟩ := modes.skip_continued text more
  · simp only [propertyName?, aheadWhole] at read
    split at read
    · cases read
    · rename_i same
      cases same
      simp only [propertyName?, ahead]
      exact braced?_cut (Nat.lt_succ_self rest.length) read
    · cases read
    · rename_i noBrace noEscape same
      cases same
      cases read
      exact .inl ⟨rest, rfl, by simp only [propertyName?, ahead]⟩
  · exact .inr ((takesNext_of_propertyName? read).past past)

theorem propertyClass?_cut {negated : Bool} {escape : Escape}
    (read : propertyClass? modes negated (continued text more) = some (escape, left)) :
    Cuts more (propertyClass? modes negated text) escape left := by
  rw [propertyClass?_eq] at read ⊢
  obtain ⟨⟨name, after⟩, named, read⟩ := Option.bind_eq_some_iff.1 read
  obtain ⟨found, known, same⟩ := Option.map_eq_some_iff.1 read
  cases same
  obtain ⟨rest, rfl, own⟩ | past := propertyName?_cut named
  · exact .inl ⟨rest, rfl, by simp only [own, Option.bind_some, known, Option.map_some]⟩
  · exact .inr past

/-- A word boundary before an open brace that the text ends with: only because something follows the brace, it is no
error. -/
def Dangles (modes : Modes) (more left : List Char) : Prop :=
  ∃ inside, left = '\x7b' :: continued inside more ∧ modes.skip inside = []

theorem isEdgeLetter_parenthesis : isEdgeLetter ')' = false := by decide

theorem wordBoundary?_cut {escape : Escape}
    (read : wordBoundary? modes (continued text more) = some (escape, left)) :
    Cuts more (wordBoundary? modes text) escape left ∨
      (∃ condition, escape = .look condition) ∧ Dangles modes more left := by
  rw [wordBoundary?.eq_def] at read
  split at read
  · rename_i starts
    obtain ⟨inside, rfl, rfl⟩ := exists_of_continued_eq_cons (by decide) starts
    obtain ⟨c, rest, ahead, aheadWhole⟩ | ⟨none, past⟩ := modes.skip_continued inside more
    · rw [aheadWhole] at read
      rw [wordBoundary?, ahead]
      simp only at read ⊢
      split at read
      · rename_i letter
        rw [if_pos letter]
        split at read
        · rename_i name after found
          obtain ⟨edge, named, same⟩ := Option.map_eq_some_iff.1 read
          cases same
          rw [edgeName_eq_scan, ← continued_cons] at found
          have fits : (c :: rest).length ≤ rest.length + 1 := Nat.le_refl _
          obtain ⟨rest', same, own⟩ | past := scan_cut isEdgeLetter_parenthesis fits (Nat.le_refl _) found
          · obtain ⟨behind, rfl, rfl⟩ := exists_of_continued_eq_cons (by decide) same.symm
            refine .inl (.inl ⟨behind, rfl, ?_⟩)
            rw [edgeName_eq_scan, Option.some.inj own]
            simp only [named, Option.map_some]
          · exact .inl (.inr ((List.suffix_cons _ _).trans past))
        · cases read
      · rename_i noLetter
        rw [if_neg noLetter]
        cases read
        exact .inl (.inl ⟨'\x7b' :: inside, rfl, rfl⟩)
    · split at read
      · cases read
      · rename_i c others ahead
        rw [ahead] at past
        split at read
        · rename_i letter
          split at read
          · rename_i name after found
            obtain ⟨edge, -, same⟩ := Option.map_eq_some_iff.1 read
            cases same
            obtain same | inner := past
            · cases same
              exact absurd letter (by decide)
            · have behind := scan_suffix modes isEdgeLetter (others.length + 1) (c :: others)
              rw [← edgeName_eq_scan, found] at behind
              exact .inl (.inr ((suffix_cons_trans List.suffix_rfl behind).trans inner))
          · cases read
        · cases read
          exact .inr ⟨⟨_, rfl⟩, inside, rfl, none⟩
  · rename_i noBrace
    cases read
    refine .inl (.inl ⟨text, rfl, ?_⟩)
    unfold wordBoundary?
    split
    · rename_i inside
      exact absurd rfl (noBrace (continued inside more))
    · rfl

theorem read?_cut {escape : Escape} (read : read? modes (continued text more) = some (escape, left)) :
    Cuts more (read? modes text) escape left ∨
      (∃ condition, escape = .look condition) ∧ Dangles modes more left := by
  cases text with
  | nil => exact .inl (.inr (read?_suffix read))
  | cons c text =>
    rw [read?.eq_def] at read ⊢
    simp only [continued_cons] at read ⊢
    split at read
    · rename_i escapable
      cases read
      rw [if_pos escapable]
      exact .inl (.inl ⟨text, rfl, rfl⟩)
    · rename_i special
      rw [if_neg special]
      split at read
      · exact .inl (codePoint?_cut read)
      · exact .inl (codePoint?_cut read)
      · exact .inl (codePoint?_cut read)
      · exact .inl (propertyClass?_cut read)
      · exact .inl (propertyClass?_cut read)
      iterate 6
        · obtain ⟨set, members, same⟩ := Option.map_eq_some_iff.1 read
          cases same
          exact .inl (.inl ⟨text, rfl, by simp only [members, Option.map_some]⟩)
      iterate 8
        · cases read
          exact .inl (.inl ⟨text, rfl, rfl⟩)
      · exact wordBoundary?_cut read
      iterate 3
        · cases read
          exact .inl (.inl ⟨text, rfl, rfl⟩)
      · cases read

end Escape

end Criteria.Pattern
