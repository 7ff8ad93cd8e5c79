import Criteria.Pattern.Brackets
import Criteria.Proofs.Pattern.Closing.Escape

/-!
Classes with a parenthesis added behind the text. A class ends with its bracket, so whatever is read of it
stands before the end of the text, and the parenthesis decides nothing.
-/
namespace Criteria.Pattern.Brackets

variable {modes : Modes} {text rest : List Char}

def nameBody? (negated : Bool) (inside : List Char) : Option (Bool × CharSet × List Char) :=
  match inside.dropWhile (· != ':') with
  | ':' :: ']' :: rest => (asciiClass? (inside.takeWhile (· != ':'))).bind fun set => some (negated, set, rest)
  | _ => none

theorem named?_of_circumflex (inside : List Char) : named? (':' :: '^' :: inside) = nameBody? true inside := rfl

theorem named?_of_colon {inside : List Char} (plain : inside.head? ≠ some '^') :
    named? (':' :: inside) = nameBody? false inside := by
  cases inside with
  | nil => rfl
  | cons c inside =>
    have unmarked : ∀ rest, c :: inside = '^' :: rest → False :=
      fun rest same => plain (congrArg some (List.cons.inj same).1)
    simp only [named?, Option.bind_eq_bind, Option.bind_some]
    rfl

theorem named?_of_other {c : Char} (other : c ≠ ':') (text : List Char) : named? (c :: text) = none := by
  have unmarked : ∀ rest, c :: text = ':' :: rest → False := fun rest same => other (List.cons.inj same).1
  simp only [named?, Option.bind_eq_bind, Option.bind_none]

theorem nameBody?_of_colon {inside rest : List Char} {c : Char} (found : inside.dropWhile (· != ':') = c :: rest)
    (negated : Bool) (more : List Char) :
    nameBody? negated (continued inside more) =
      (nameBody? negated inside).map fun read => (read.1, read.2.1, continued read.2.2 more) := by
  unfold nameBody?
  rw [dropWhile_continued more found, takeWhile_continued more found, found]
  cases rest with
  | nil =>
    rw [continued_nil]
    split
    · rename_i same
      cases same
    · split
      · rename_i same
        cases same
      · rfl
  | cons second rest =>
    rw [continued_cons]
    split
    · rename_i same
      cases same
      cases asciiClass? (inside.takeWhile (· != ':')) <;> rfl
    · rename_i other
      split
      · rename_i same
        cases same
        exact absurd rfl (other _)
      · rfl

theorem nameBody?_closed (negated : Bool) (inside : List Char) :
    nameBody? negated (closed inside) =
      (nameBody? negated inside).map fun read => (read.1, read.2.1, closed read.2.2) := by
  cases found : inside.dropWhile (· != ':') with
  | nil =>
    unfold nameBody?
    rw [dropWhile_closed_of_nil found, found]
    rfl
  | cons c rest => exact nameBody?_of_colon found negated []

theorem named?_closed (text : List Char) :
    named? (closed text) = (named? text).map fun read => (read.1, read.2.1, closed read.2.2) := by
  cases text with
  | nil => rfl
  | cons c text =>
    rw [closed_cons]
    by_cases colon : c = ':'
    · subst colon
      by_cases negated : text.head? = some '^'
      · obtain ⟨inside, rfl⟩ := List.head?_eq_some_iff.1 negated
        rw [closed_cons, named?_of_circumflex, named?_of_circumflex, nameBody?_closed]
      · have plain : (closed text).head? ≠ some '^' := by
          cases text with
          | nil => decide
          | cons first text => exact negated
        rw [named?_of_colon negated, named?_of_colon plain, nameBody?_closed]
    · rw [named?_of_other colon, named?_of_other colon, Option.map_none]

theorem leadingHyphens_eq_scan (fuel : Nat) (text : List Char) :
    leadingHyphens modes fuel text =
      (!(scan modes (· == '-') fuel text).1.isEmpty, (scan modes (· == '-') fuel text).2) := by
  induction fuel generalizing text with
  | zero => rfl
  | succ fuel ih =>
    cases text with
    | nil => rfl
    | cons c rest =>
      by_cases hyphen : c = '-'
      · subst hyphen
        rw [leadingHyphens, ih]
        rfl
      · have stops : ¬ (c == '-') = true := by simpa using hyphen
        rw [scan, if_neg stops]
        unfold leadingHyphens
        split
        · rename_i same
          exact absurd (List.cons.inj same).1 hyphen
        · rfl

theorem leadingHyphens_closed {some : Bool} {c : Char} (read : leadingHyphens modes text.length text = (some, c :: rest)) :
    leadingHyphens modes (closed text).length (closed text) = (some, c :: closed rest) := by
  rw [leadingHyphens_eq_scan] at read ⊢
  cases hyphens : scan modes (· == '-') text.length text with
  | mk found after =>
    rw [hyphens] at read
    cases read
    rw [scan_closed (Nat.le_refl _) (Nat.le_refl _) hyphens]

theorem eq_of_leadingHyphens_false {fuel : Nat} {after : List Char}
    (read : leadingHyphens modes fuel text = (false, after)) : after = text := by
  unfold leadingHyphens at read
  split at read
  · cases read
  · cases read
    rfl

def leading (modes : Modes) (negated : Bool) (text : List Char) : Bool × CharSet × List Char :=
  match leadingHyphens modes text.length text with
  | (true, rest) => (negated, .single '-', rest)
  | (false, _) =>
    match text with
    | ']' :: rest => (negated, .single ']', modes.skip rest)
    | _ => (negated, .empty, text)

theorem opening_of_nil (ahead : modes.skip text = []) : opening modes text = (false, .empty, []) := by
  simp only [opening, ahead]
  rfl

theorem opening_of_circumflex (ahead : modes.skip text = '^' :: rest) :
    opening modes text = leading modes true (modes.skip rest) := by
  simp only [opening, ahead]
  rfl

theorem opening_of_other {c : Char} (ahead : modes.skip text = c :: rest) (other : c ≠ '^') :
    opening modes text = leading modes false (c :: rest) := by
  have unmarked : ∀ others, c :: rest = '^' :: others → False := fun others same => other (List.cons.inj same).1
  simp only [opening, ahead]
  rfl

theorem leading_closed {negated excluded : Bool} {set : CharSet} {c : Char}
    (read : leading modes negated text = (excluded, set, c :: rest)) :
    leading modes negated (closed text) = (excluded, set, c :: closed rest) := by
  rw [leading.eq_def] at read ⊢
  cases hyphens : leadingHyphens modes text.length text with
  | mk some after =>
    rw [hyphens] at read
    cases some with
    | true =>
      cases read
      rw [leadingHyphens_closed hyphens]
    | false =>
      obtain rfl := eq_of_leadingHyphens_false hyphens
      cases after with
      | nil => cases read
      | cons first others =>
        rw [leadingHyphens_closed hyphens]
        simp only [closed_cons] at read ⊢
        by_cases bracket : first = ']'
        · subst bracket
          simp only [Prod.mk.injEq] at read ⊢
          exact ⟨read.1, read.2.1, Modes.skip_closed read.2.2⟩
        · split at read
          · rename_i same
            exact absurd (List.cons.inj same).1 bracket
          · cases read
            split
            · rename_i same
              exact absurd (List.cons.inj same).1 bracket
            · rfl

theorem opening_closed {negated : Bool} {set : CharSet} {c : Char}
    (read : opening modes text = (negated, set, c :: rest)) :
    opening modes (closed text) = (negated, set, c :: closed rest) := by
  cases ahead : modes.skip text with
  | nil =>
    rw [opening_of_nil ahead] at read
    cases read
  | cons first others =>
    by_cases negation : first = '^'
    · subst negation
      rw [opening_of_circumflex ahead] at read
      rw [opening_of_circumflex (Modes.skip_closed ahead)]
      cases behind : modes.skip others with
      | nil =>
        rw [behind] at read
        cases read
      | cons second others =>
        rw [behind] at read
        rw [Modes.skip_closed behind, ← closed_cons]
        exact leading_closed read
    · rw [opening_of_other ahead negation] at read
      rw [opening_of_other (Modes.skip_closed ahead) negation, ← closed_cons]
      exact leading_closed read

theorem item?_closed {item : Escape} (read : item? modes text = some (item, rest)) :
    item? modes (closed text) = some (item, closed rest) := by
  rw [item?.eq_def] at read
  split at read
  · cases read
  · exact Escape.read?_closed read
  · rename_i plain
    cases read
    simp only [closed_cons, item?]

abbrev KeepsHyphen (next : Option Char) : Prop := next = some ']' ∨ next = some '-'

theorem not_keepsHyphen_of_isWhiteSpace {c : Char} (blank : Unicode.isWhiteSpace c = true) :
    ¬ KeepsHyphen (some c) := by
  intro keeps
  obtain same | same := keeps
  · cases same
    exact absurd blank (by decide)
  · cases same
    exact absurd blank (by decide)

theorem keepsHyphen_head?_continued (text more : List Char) :
    KeepsHyphen (continued text more).head? ↔ KeepsHyphen text.head? := by
  cases text with
  | nil => simp [KeepsHyphen]
  | cons c text => rfl

theorem not_keepsHyphen_of_passed (passed : text.dropWhile Unicode.isWhiteSpace = [] ∨
    ∃ comment, text.dropWhile Unicode.isWhiteSpace = '#' :: comment) : ¬ KeepsHyphen text.head? := by
  cases text with
  | nil => simp [KeepsHyphen]
  | cons c text =>
    by_cases blank : Unicode.isWhiteSpace c = true
    · exact not_keepsHyphen_of_isWhiteSpace blank
    · rw [List.dropWhile_cons_of_neg blank] at passed
      obtain none | ⟨comment, same⟩ := passed
      · cases none
      · cases same
        simp [KeepsHyphen]

theorem keepsHyphen_peek?_continued (hyphen : Char) (text more : List Char) :
    KeepsHyphen (peek? modes (hyphen :: continued text more)) ↔ KeepsHyphen (peek? modes (hyphen :: text)) := by
  simp only [peek?]
  split
  · cases blanks : text.dropWhile Unicode.isWhiteSpace with
    | nil =>
      rw [dropWhile_continued_of_nil more blanks, dropWhile_parenthesis]
      have original := not_keepsHyphen_of_passed (.inl blanks)
      simp only [original, iff_false]
      simp [KeepsHyphen]
    | cons c others =>
      rw [dropWhile_continued more blanks]
      by_cases mark : c = '#'
      · subst mark
        have original := not_keepsHyphen_of_passed (.inr ⟨others, blanks⟩)
        simp only
        cases comment : others.dropWhile Unicode.isWhiteSpace with
        | nil =>
          rw [dropWhile_continued_of_nil more comment, dropWhile_parenthesis]
          simp only [List.head?_nil, Option.none_or, original, iff_false]
          simp [KeepsHyphen]
        | cons d comment' =>
          rw [dropWhile_continued more comment]
          rfl
      · split
        · rename_i same
          exact absurd (List.cons.inj same).1 mark
        · rename_i same
          cases same
          rfl
        · rename_i same
          cases same
  · exact keepsHyphen_head?_continued text more

theorem keepsHyphen_peek?_closed (hyphen : Char) (text : List Char) :
    KeepsHyphen (peek? modes (hyphen :: closed text)) ↔ KeepsHyphen (peek? modes (hyphen :: text)) :=
  keepsHyphen_peek?_continued hyphen text []

def elementFrom? (modes : Modes) (first : Escape) (text : List Char) : Option (CharSet × List Char) :=
  match modes.skip text with
  | [] => none
  | '-' :: rest =>
    if peek? modes ('-' :: rest) = some ']' ∨ peek? modes ('-' :: rest) = some '-' then
      (itemSet? modes first).bind fun set => some (set, '-' :: rest)
    else
      (item? modes (modes.skip rest)).bind fun last =>
        (rangeSet? modes first last.1).bind fun set => some (set, last.2)
  | rest => (itemSet? modes first).bind fun set => some (set, rest)

theorem element?_eq (modes : Modes) (text : List Char) :
    element? modes text = (item? modes text).bind fun read => elementFrom? modes read.1 read.2 := rfl

theorem elementFrom?_closed {first : Escape} {set : CharSet}
    (read : elementFrom? modes first text = some (set, rest)) :
    elementFrom? modes first (closed text) = some (set, closed rest) := by
  unfold elementFrom? at read ⊢
  split at read
  · cases read
  · rename_i others ahead
    simp only [Modes.skip_closed ahead]
    split at read
    · rename_i keeps
      obtain ⟨found, members, same⟩ := Option.bind_eq_some_iff.1 read
      cases same
      rw [if_pos ((keepsHyphen_peek?_closed '-' others).2 keeps), members, Option.bind_some]
      rfl
    · rename_i range
      obtain ⟨⟨last, behind⟩, item, read⟩ := Option.bind_eq_some_iff.1 read
      obtain ⟨found, members, same⟩ := Option.bind_eq_some_iff.1 read
      cases same
      rw [if_neg (fun keeps => range ((keepsHyphen_peek?_closed '-' others).1 keeps))]
      cases next : modes.skip others with
      | nil =>
        rw [next] at item
        cases item
      | cons c others =>
        rw [next] at item
        have later := item?_closed item
        rw [Modes.skip_closed next, ← closed_cons, later]
        simp only [Option.bind_some, members]
  · rename_i noEnd noHyphen
    obtain ⟨found, members, same⟩ := Option.bind_eq_some_iff.1 read
    cases same
    cases ahead : modes.skip text with
    | nil => exact absurd ahead noEnd
    | cons c others =>
      rw [Modes.skip_closed ahead]
      split
      · rename_i same
        cases same
      · rename_i same
        cases same
        exact absurd ahead (noHyphen others)
      · rw [members, Option.bind_some, closed_cons]

theorem element?_closed {set : CharSet} (read : element? modes text = some (set, rest)) :
    element? modes (closed text) = some (set, closed rest) := by
  rw [element?_eq] at read ⊢
  obtain ⟨⟨first, after⟩, item, read⟩ := Option.bind_eq_some_iff.1 read
  rw [item?_closed item, Option.bind_some]
  exact elementFrom?_closed read

theorem elements?_nil (fuel : Nat) (pending : Pending) (sofar : CharSet) :
    elements? modes fuel pending sofar [] = none := by
  cases fuel with
  | zero => rfl
  | succ fuel => rw [elements?, Modes.skip_nil]

structure StartsElement (c : Char) (others : List Char) : Prop where
  noClose : c ≠ ']'
  noOpen : c ≠ '['
  single : c = '&' ∨ c = '-' ∨ c = '~' → others.head? ≠ some c

theorem StartsElement.closed {c : Char} {others : List Char} (starts : StartsElement c others) :
    StartsElement c (closed others) := by
  refine ⟨starts.noClose, starts.noOpen, ?_⟩
  intro mark
  cases others with
  | nil => obtain rfl | rfl | rfl := mark <;> decide
  | cons d others => exact starts.single mark

theorem elements?_of_startsElement {c : Char} {others : List Char} (ahead : modes.skip text = c :: others)
    (starts : StartsElement c others) (fuel : Nat) (pending : Pending) (sofar : CharSet) :
    elements? modes (fuel + 1) pending sofar text =
      (element? modes (c :: others)).bind fun read => elements? modes fuel pending (.union sofar read.1) read.2 := by
  rw [elements?.eq_def]
  simp only [ahead]
  split
  · rename_i same
    cases same
  · rename_i same
    cases same
    exact absurd rfl starts.noClose
  · rename_i same
    cases same
    exact absurd rfl (starts.single (.inl rfl))
  · rename_i same
    cases same
    exact absurd rfl (starts.single (.inr (.inl rfl)))
  · rename_i same
    cases same
    exact absurd rfl (starts.single (.inr (.inr rfl)))
  · rename_i same
    cases same
    exact absurd rfl starts.noOpen
  · cases element? modes (c :: others) <;> rfl

def nested? (modes : Modes) (fuel : Nat) (pending : Pending) (sofar : CharSet) (text : List Char) :
    Option (CharSet × List Char) :=
  (elements? modes fuel none (opening modes text).2.1 (opening modes text).2.2).bind fun inner =>
    (close? modes (opening modes text).1 inner.1).bind fun set => elements? modes fuel pending (.union sofar set) inner.2

theorem elements?_of_nested {rest : List Char} (ahead : modes.skip text = '[' :: rest) (unnamed : named? rest = none)
    (fuel : Nat) (pending : Pending) (sofar : CharSet) :
    elements? modes (fuel + 1) pending sofar text = nested? modes fuel pending sofar rest := by
  simp only [elements?, ahead, unnamed, nested?]
  cases elements? modes fuel none (opening modes rest).2.1 (opening modes rest).2.2 with
  | none => rfl
  | some inner =>
    simp only [Option.bind_some]
    cases close? modes (opening modes rest).1 inner.1 <;> rfl

theorem elements?_of_named {rest after : List Char} {negated : Bool} {members : CharSet}
    (ahead : modes.skip text = '[' :: rest) (named : named? rest = some (negated, members, after)) (fuel : Nat)
    (pending : Pending) (sofar : CharSet) :
    elements? modes (fuel + 1) pending sofar text =
      (close? modes negated members).bind fun set => elements? modes fuel pending (.union sofar set) after := by
  simp only [elements?, ahead, named]
  cases close? modes negated members <;> rfl

/-- The rest of a class, read with so much fuel, is read in the same way with a parenthesis behind the text. -/
def ClosesElements (modes : Modes) (fuel : Nat) : Prop :=
  ∀ {more : Nat} {pending : Pending} {sofar set : CharSet} {text rest : List Char}, fuel ≤ more →
    elements? modes fuel pending sofar text = some (set, rest) →
      elements? modes more pending sofar (closed text) = some (set, closed rest)

theorem nested?_closed {fuel more : Nat} {pending : Pending} {sofar set : CharSet}
    (closes : ClosesElements modes fuel) (enough : fuel ≤ more)
    (read : nested? modes fuel pending sofar text = some (set, rest)) :
    nested? modes more pending sofar (closed text) = some (set, closed rest) := by
  cases opens : opening modes text with
  | mk negated start =>
    obtain ⟨first, after⟩ := start
    simp only [nested?, opens] at read ⊢
    obtain ⟨⟨members, behind⟩, inner, read⟩ := Option.bind_eq_some_iff.1 read
    obtain ⟨folded, folds, last⟩ := Option.bind_eq_some_iff.1 read
    cases after with
    | nil =>
      rw [elements?_nil] at inner
      cases inner
    | cons c after =>
      rw [opening_closed opens]
      simp only [← closed_cons, closes enough inner, Option.bind_some, folds]
      exact closes enough last

theorem elements?_bracket_closed {fuel more : Nat} {pending : Pending} {sofar set : CharSet} {inside : List Char}
    (closes : ClosesElements modes fuel) (enough : fuel ≤ more) (ahead : modes.skip text = '[' :: inside)
    (read : elements? modes (fuel + 1) pending sofar text = some (set, rest)) :
    elements? modes (more + 1) pending sofar (closed text) = some (set, closed rest) := by
  have aheadClosed := Modes.skip_closed ahead
  cases named : named? inside with
  | some found =>
    obtain ⟨negated, members, after⟩ := found
    have namedClosed : named? (closed inside) = some (negated, members, closed after) := by
      rw [named?_closed, named, Option.map_some]
    rw [elements?_of_named ahead named] at read
    rw [elements?_of_named aheadClosed namedClosed]
    obtain ⟨folded, folds, read⟩ := Option.bind_eq_some_iff.1 read
    rw [folds, Option.bind_some]
    exact closes enough read
  | none =>
    have unnamed : named? (closed inside) = none := by rw [named?_closed, named, Option.map_none]
    rw [elements?_of_nested ahead named] at read
    rw [elements?_of_nested aheadClosed unnamed]
    exact nested?_closed closes enough read

theorem elements?_element_closed {fuel more : Nat} {pending : Pending} {sofar set : CharSet} {c : Char}
    {others : List Char} (closes : ClosesElements modes fuel) (enough : fuel ≤ more)
    (ahead : modes.skip text = c :: others) (starts : StartsElement c others)
    (read : elements? modes (fuel + 1) pending sofar text = some (set, rest)) :
    elements? modes (more + 1) pending sofar (closed text) = some (set, closed rest) := by
  rw [elements?_of_startsElement ahead starts] at read
  rw [elements?_of_startsElement (Modes.skip_closed ahead) starts.closed, ← closed_cons]
  obtain ⟨⟨members, after⟩, element, read⟩ := Option.bind_eq_some_iff.1 read
  rw [element?_closed element, Option.bind_some]
  exact closes enough read

theorem elements?_closed (modes : Modes) (fuel : Nat) : ClosesElements modes fuel := by
  induction fuel with
  | zero =>
    intro more pending sofar set text rest enough read
    cases read
  | succ fuel ih =>
    intro more pending sofar set text rest enough read
    obtain ⟨more, rfl⟩ : ∃ less, more = less + 1 := ⟨more - 1, by omega⟩
    have less : fuel ≤ more := Nat.le_of_succ_le_succ enough
    have whole := read
    rw [elements?.eq_def] at read
    simp only at read
    split at read
    · cases read
    · rename_i ahead
      cases read
      simp only [elements?, Modes.skip_closed ahead]
    -- The doubled marks end an operand, and the rest of the class is read from behind them.
    iterate 3
      · rename_i ahead
        simp only [elements?, Modes.skip_closed ahead, closed_cons]
        exact ih less read
    · rename_i inside ahead
      exact elements?_bracket_closed ih less ahead whole
    · rename_i noEnd noClose noAnd noMinus noTilde noOpen
      cases ahead : modes.skip text with
      | nil => exact absurd ahead noEnd
      | cons c others =>
        have starts : StartsElement c others := by
          refine ⟨fun same => noClose others (same ▸ ahead), fun same => noOpen others (same ▸ ahead), ?_⟩
          intro mark doubled
          obtain ⟨rest, rfl⟩ := List.head?_eq_some_iff.1 doubled
          obtain rfl | rfl | rfl := mark
          · exact noAnd rest ahead
          · exact noMinus rest ahead
          · exact noTilde rest ahead
        exact elements?_element_closed ih less ahead starts whole

theorem read?_closed {set : CharSet} (read : read? modes text = some (set, rest)) :
    read? modes (closed text) = some (set, closed rest) := by
  rw [read?] at read ⊢
  cases opens : opening modes text with
  | mk negated start =>
    obtain ⟨first, after⟩ := start
    simp only [opens, Option.bind_eq_bind] at read ⊢
    obtain ⟨⟨members, behind⟩, inner, read⟩ := Option.bind_eq_some_iff.1 read
    obtain ⟨found, folded, same⟩ := Option.bind_eq_some_iff.1 read
    cases same
    cases after with
    | nil =>
      rw [elements?_nil] at inner
      cases inner
    | cons c after =>
      have more : text.length + 1 ≤ (closed text).length + 1 := by simp
      rw [opening_closed opens]
      simp only [← closed_cons, elements?_closed modes _ more inner, Option.bind_some, folded]

end Criteria.Pattern.Brackets
