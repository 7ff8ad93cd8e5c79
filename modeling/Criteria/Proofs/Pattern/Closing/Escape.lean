import Criteria.Proofs.Pattern.Continuation

/-!
Reading with a parenthesis added at the end. Whatever is read from a text is read from the text with a
closing parenthesis behind it in the same way, and the parenthesis is left over. Here this is shown for
blanks and comments, of which only a comment that the text leaves open takes the parenthesis in, and for
escapes.
-/
namespace Criteria.Pattern

def closed (text : List Char) : List Char := text ++ [')']

@[simp] theorem closed_cons (c : Char) (rest : List Char) : closed (c :: rest) = c :: closed rest := rfl

@[simp] theorem length_closed (text : List Char) : (closed text).length = text.length + 1 := List.length_append

theorem closed_starts {text : List Char} {c : Char} (other : c ≠ ')') (starts : ∀ rest, text = c :: rest → False) :
    ∀ rest, closed text = c :: rest → False := by
  intro rest same
  cases text with
  | nil =>
    cases same
    exact other rfl
  | cons d text =>
    cases same
    exact starts text rfl

theorem closed_starts_two {text : List Char} {c d : Char} (first : c ≠ ')') (second : d ≠ ')')
    (starts : ∀ rest, text = c :: d :: rest → False) : ∀ rest, closed text = c :: d :: rest → False := by
  intro rest same
  cases text with
  | nil => cases same
  | cons e text =>
    rw [closed_cons, List.cons.injEq] at same
    obtain ⟨rfl, behind⟩ := same
    exact closed_starts second (fun rest same => starts rest (congrArg _ same)) rest behind

section Scans

variable {test : Char → Bool} {text rest : List Char} {c : Char}

theorem dropWhile_closed (found : text.dropWhile test = c :: rest) :
    (closed text).dropWhile test = c :: closed rest := dropWhile_continued [] found

theorem dropWhile_closed_of_nil (passed : text.dropWhile test = []) :
    (closed text).dropWhile test = [')'].dropWhile test := dropWhile_continued_of_nil [] passed

theorem takeWhile_closed (found : text.dropWhile test = c :: rest) :
    (closed text).takeWhile test = text.takeWhile test := takeWhile_continued [] found

end Scans

namespace Modes

variable {modes : Modes}

theorem skip_closed {text rest : List Char} {c : Char} (ahead : modes.skip text = c :: rest) :
    modes.skip (closed text) = c :: closed rest := by
  obtain ⟨d, others, own, whole⟩ | ⟨none, -⟩ := modes.skip_continued text []
  · cases own.symm.trans ahead
    exact whole
  · cases none.symm.trans ahead

/-- At the end of the text the parenthesis comes next, unless a comment takes it in. -/
theorem skip_closed_of_nil {text : List Char} (passed : modes.skip text = []) :
    modes.skip (closed text) = [] ∨ modes.skip (closed text) = [')'] := by
  obtain ⟨d, others, own, -⟩ | ⟨-, added | taken⟩ := modes.skip_continued text []
  · cases own.symm.trans passed
  · exact .inr added
  · exact .inl (List.suffix_nil.1 taken)

end Modes

def scan (modes : Modes) (test : Char → Bool) : (fuel : Nat) → List Char → List Char × List Char
  | 0, text => ([], text)
  | _ + 1, [] => ([], [])
  | fuel + 1, c :: rest =>
    if test c then
      let (found, rest) := scan modes test fuel (modes.skip rest)
      (c :: found, rest)
    else ([], c :: rest)

section Scan

variable {modes : Modes} {test : Char → Bool} {text rest : List Char}

@[simp] theorem scan_nil (fuel : Nat) : scan modes test fuel [] = ([], []) := by
  cases fuel <;> rfl

theorem scan_closed {fuel more : Nat} {found : List Char} {c : Char} (enough : text.length ≤ fuel)
    (closedEnough : (closed text).length ≤ more) (read : scan modes test fuel text = (found, c :: rest)) :
    scan modes test more (closed text) = (found, c :: closed rest) := by
  rw [length_closed] at closedEnough
  induction fuel generalizing more found text with
  | zero =>
    obtain rfl : text = [] := List.eq_nil_of_length_eq_zero (by omega)
    cases read
  | succ fuel ih =>
    obtain ⟨more, rfl⟩ : ∃ less, more = less + 1 := ⟨more - 1, by omega⟩
    cases text with
    | nil => cases read
    | cons first others =>
      have shorter := (modes.skip_suffix others).length_le
      rw [List.length_cons] at enough closedEnough
      rw [scan] at read
      rw [closed_cons, scan]
      split at read
      · rename_i passed
        cases ahead : modes.skip others with
        | nil =>
          simp only [ahead, scan_nil] at read
          cases read
        | cons next others =>
          rw [ahead] at shorter read
          cases inside : scan modes test fuel (next :: others) with
          | mk later after =>
            rw [inside] at read
            cases read
            have same : scan modes test more (closed (next :: others)) = (later, c :: closed rest) :=
              ih (by omega) (by omega) inside
            simp only [if_pos passed, Modes.skip_closed ahead, ← closed_cons, same]
      · rename_i stops
        cases read
        rw [if_neg stops]

end Scan

namespace Escape

variable {modes : Modes} {text rest : List Char}

theorem fixedHex?_closed {count value result : Nat} (read : fixedHex? modes count value text = some (result, rest)) :
    fixedHex? modes count value (closed text) = some (result, closed rest) := by
  induction count generalizing value text with
  | zero =>
    cases read
    rfl
  | succ count ih =>
    rw [fixedHex?] at read ⊢
    cases ahead : modes.skip text with
    | nil =>
      rw [ahead] at read
      cases read
    | cons c others =>
      simp only [ahead, Modes.skip_closed ahead] at read ⊢
      cases digit : Text.hexDigit? c with
      | none =>
        rw [digit] at read
        cases read
      | some digit =>
        simp only [digit] at read ⊢
        exact ih read

theorem fixedHex?_nil {count : Nat} (some : count ≠ 0) (value : Nat) : fixedHex? modes count value [] = none := by
  obtain ⟨count, rfl⟩ := Nat.exists_eq_succ_of_ne_zero some
  rw [fixedHex?, Modes.skip_nil]

theorem bracedHex?_closed {fuel more result : Nat} {value? : Option Nat} (enough : fuel ≤ more)
    (read : bracedHex? modes fuel value? text = some (result, rest)) :
    bracedHex? modes more value? (closed text) = some (result, closed rest) := by
  induction fuel generalizing more value? text with
  | zero => cases read
  | succ fuel ih =>
    obtain ⟨more, rfl⟩ : ∃ less, more = less + 1 := ⟨more - 1, by omega⟩
    rw [bracedHex?] at read ⊢
    split at read
    · cases read
    · rename_i ahead
      obtain ⟨value, held, same⟩ := Option.map_eq_some_iff.1 read
      cases same
      simp only [Modes.skip_closed ahead, held, Option.map_some]
    · rename_i c others noBrace ahead
      split at read
      · rename_i digit
        simp only [Modes.skip_closed ahead, digit, ih (Nat.le_of_succ_le_succ enough) read]
      · cases read

theorem codePoint?_closed {letter : Char} {escape : Escape} (read : codePoint? modes letter text = some (escape, rest)) :
    codePoint? modes letter (closed text) = some (escape, closed rest) := by
  rw [codePoint?] at read ⊢
  simp only [Option.bind_eq_bind] at read ⊢
  split at read
  · rename_i inside ahead
    obtain ⟨⟨value, after⟩, digits, read⟩ := Option.bind_eq_some_iff.1 read
    obtain ⟨c, named, same⟩ := Option.bind_eq_some_iff.1 read
    cases same
    have more : inside.length + 1 ≤ (closed inside).length + 1 := by simp
    simp only [Modes.skip_closed ahead, bracedHex?_closed more digits, Option.bind_some, named]
  · rename_i noBrace
    obtain ⟨⟨value, after⟩, digits, read⟩ := Option.bind_eq_some_iff.1 read
    obtain ⟨c, named, same⟩ := Option.bind_eq_some_iff.1 read
    cases same
    cases ahead : modes.skip text with
    | nil =>
      have needed : (if letter = 'x' then 2 else if letter = 'u' then 4 else 8) ≠ 0 := by
        split
        · decide
        · split <;> decide
      rw [ahead, fixedHex?_nil needed] at digits
      cases digits
    | cons first others =>
      rw [ahead] at digits noBrace
      rw [Modes.skip_closed ahead]
      split
      · rename_i same
        cases same
        exact absurd rfl (noBrace others)
      · rw [← closed_cons, fixedHex?_closed digits, Option.bind_some, named, Option.bind_some]

theorem braced?_closed {fuel more : Nat} {name : List Char} (enough : fuel ≤ more)
    (read : braced? modes fuel text = some (name, rest)) :
    braced? modes more (closed text) = some (name, closed rest) := by
  induction fuel generalizing more name text with
  | zero => cases read
  | succ fuel ih =>
    obtain ⟨more, rfl⟩ : ∃ less, more = less + 1 := ⟨more - 1, by omega⟩
    rw [braced?] at read ⊢
    split at read
    · cases read
    · rename_i ahead
      cases read
      simp only [Modes.skip_closed ahead]
    · rename_i c others noBrace ahead
      obtain ⟨⟨name, after⟩, inside, same⟩ := Option.map_eq_some_iff.1 read
      cases same
      simp only [Modes.skip_closed ahead, ih (Nat.le_of_succ_le_succ enough) inside, Option.map_some]

def propertyName? (modes : Modes) (text : List Char) : Option (List Char × List Char) :=
  match modes.skip text with
  | [] => none
  | '\x7b' :: rest => braced? modes (rest.length + 1) rest
  | '\\' :: _ => none
  | c :: rest => some ([c], rest)

def propertyEscape? (modes : Modes) (negated : Bool) (name : List Char) : Option Escape :=
  (property? name).bind fun found =>
    if modes.unicode then (modes.negate? (negated != found.1) (modes.fold found.2)).map .oneOf else none

theorem propertyClass?_eq (modes : Modes) (negated : Bool) (text : List Char) :
    propertyClass? modes negated text =
      (propertyName? modes text).bind fun read =>
        (propertyEscape? modes negated read.1).map fun escape => (escape, read.2) := by
  have made : ∀ read : List Char × List Char,
      ((property? read.1).bind fun found =>
        if modes.unicode then
          (modes.negate? (negated != found.1) (modes.fold found.2)).bind fun set => some (.oneOf set, read.2)
        else none) = (propertyEscape? modes negated read.1).map fun escape => (escape, read.2) := by
    intro read
    unfold propertyEscape?
    cases property? read.1 with
    | none => rfl
    | some found =>
      simp only [Option.bind_some]
      split
      · cases modes.negate? (negated != found.1) (modes.fold found.2) <;> rfl
      · rfl
  unfold propertyClass?
  simp only [Option.bind_eq_bind]
  split
  · rename_i ahead
    simp only [propertyName?, ahead, Option.bind_none]
  · rename_i ahead
    simp only [propertyName?, ahead]
    exact Option.bind_congr (fun read _ => made read)
  · rename_i ahead
    simp only [propertyName?, ahead, Option.bind_none]
  · rename_i ahead
    simp only [propertyName?, ahead]
    exact made _

theorem propertyName?_closed {name : List Char} (read : propertyName? modes text = some (name, rest)) :
    propertyName? modes (closed text) = some (name, closed rest) := by
  unfold propertyName? at read
  split at read
  · cases read
  · rename_i inside ahead
    have more : inside.length + 1 ≤ (closed inside).length + 1 := by simp
    simp only [propertyName?, Modes.skip_closed ahead, braced?_closed more read]
  · cases read
  · rename_i ahead
    cases read
    simp only [propertyName?, Modes.skip_closed ahead]

theorem propertyClass?_closed {negated : Bool} {escape : Escape}
    (read : propertyClass? modes negated text = some (escape, rest)) :
    propertyClass? modes negated (closed text) = some (escape, closed rest) := by
  rw [propertyClass?_eq] at read ⊢
  obtain ⟨⟨name, after⟩, named, read⟩ := Option.bind_eq_some_iff.1 read
  obtain ⟨found, known, same⟩ := Option.map_eq_some_iff.1 read
  cases same
  simp only [propertyName?_closed named, Option.bind_some, known, Option.map_some]

theorem edgeName_eq_scan (fuel : Nat) (text : List Char) :
    edgeName modes fuel text = scan modes isEdgeLetter fuel text := by
  induction fuel generalizing text with
  | zero => rfl
  | succ fuel ih => cases text with
    | nil => rfl
    | cons c rest => rw [edgeName, scan, ih]

theorem wordBoundary?_closed {escape : Escape} (read : wordBoundary? modes text = some (escape, rest)) :
    wordBoundary? modes (closed text) = some (escape, closed rest) := by
  rw [wordBoundary?.eq_def] at read
  split at read
  · rename_i inside
    rw [closed_cons, wordBoundary?]
    split at read
    · cases read
    · rename_i c others ahead
      simp only [Modes.skip_closed ahead]
      split at read
      · rename_i letter
        rw [if_pos letter]
        split at read
        · rename_i name after found
          obtain ⟨edge, named, same⟩ := Option.map_eq_some_iff.1 read
          cases same
          rw [edgeName_eq_scan] at found
          have later : scan modes isEdgeLetter ((closed others).length + 1) (closed (c :: others)) =
              (name, '\x7d' :: closed rest) := scan_closed (Nat.le_refl _) (Nat.le_refl _) found
          rw [edgeName_eq_scan, ← closed_cons, later]
          simp only [named, Option.map_some]
        · cases read
      · rename_i noLetter
        cases read
        rw [if_neg noLetter]
        rfl
  · rename_i noBrace
    cases read
    unfold wordBoundary?
    split
    · rename_i inside same
      exact absurd same (closed_starts (by decide) noBrace inside)
    · rfl

theorem read?_closed {escape : Escape} (read : read? modes text = some (escape, rest)) :
    read? modes (closed text) = some (escape, closed rest) := by
  cases text with
  | nil => cases read
  | cons c text =>
    rw [read?.eq_def] at read ⊢
    simp only [closed_cons] at read ⊢
    split at read
    · rename_i escapable
      cases read
      rw [if_pos escapable]
    · rename_i special
      rw [if_neg special]
      split at read
      · exact codePoint?_closed read
      · exact codePoint?_closed read
      · exact codePoint?_closed read
      · exact propertyClass?_closed read
      · exact propertyClass?_closed read
      iterate 6
        · obtain ⟨set, members, same⟩ := Option.map_eq_some_iff.1 read
          cases same
          simp only [members, Option.map_some]
      iterate 8
        · cases read
          rfl
      · exact wordBoundary?_closed read
      iterate 3
        · cases read
          rfl
      · cases read

end Escape

end Criteria.Pattern
