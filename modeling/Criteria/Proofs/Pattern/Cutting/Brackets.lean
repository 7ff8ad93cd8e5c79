import Criteria.Proofs.Pattern.Cutting.Escape

/-!
Classes in a text that goes on. A class that ends before the parenthesis is read from the text alone in the same way;
any other class takes the parenthesis as one of its characters.
-/
namespace Criteria.Pattern

namespace Brackets

variable {modes : Modes} {text left more : List Char}

/-- A named class is told apart before the parenthesis, or its colon stands behind the parenthesis. -/
theorem nameBody?_continued (negated : Bool) (inside more : List Char) :
    nameBody? negated (continued inside more) =
        (nameBody? negated inside).map (fun read => (read.1, read.2.1, continued read.2.2 more)) ∨
      nameBody? negated inside = none ∧
        ∀ read, nameBody? negated (continued inside more) = some read → read.2.2 <:+ more := by
  cases found : inside.dropWhile (· != ':') with
  | nil =>
    refine .inr ⟨by rw [nameBody?, found], ?_⟩
    intro read named
    unfold nameBody? at named
    rw [dropWhile_continued_of_nil more found, List.dropWhile_cons_of_pos (by decide)] at named
    split at named
    · rename_i dropped
      obtain ⟨members, -, same⟩ := Option.bind_eq_some_iff.1 named
      cases same
      have behind : _ <:+ more := List.dropWhile_suffix (· != ':')
      rw [dropped] at behind
      exact suffix_cons_trans (List.suffix_cons _ _) behind
    · cases named
  | cons c rest => exact .inl (nameBody?_of_colon found negated more)

theorem named?_continued (text more : List Char) :
    named? (continued text more) =
        (named? text).map (fun read => (read.1, read.2.1, continued read.2.2 more)) ∨
      named? text = none ∧ ∀ read, named? (continued text more) = some read → read.2.2 <:+ more := by
  cases text with
  | nil => exact .inl (named?_of_other (by decide) more)
  | cons c text =>
    rw [continued_cons]
    by_cases colon : c = ':'
    · subst colon
      by_cases negated : text.head? = some '^'
      · obtain ⟨inside, rfl⟩ := List.head?_eq_some_iff.1 negated
        rw [continued_cons, named?_of_circumflex, named?_of_circumflex]
        exact nameBody?_continued true inside more
      · have plain : (continued text more).head? ≠ some '^' := by
          cases text with
          | nil => exact fun same => absurd (Option.some.inj same) (by decide)
          | cons first text => exact negated
        rw [named?_of_colon negated, named?_of_colon plain]
        exact nameBody?_continued false text more
    · rw [named?_of_other colon, named?_of_other colon]
      exact .inl rfl

theorem leading_of_hyphen (negated : Bool) (rest : List Char) :
    leading modes negated ('-' :: rest) =
      (negated, .single '-', (scan modes (· == '-') ('-' :: rest).length ('-' :: rest)).2) := by
  rw [leading.eq_def, leadingHyphens_eq_scan]
  rfl

theorem leading_of_bracket (negated : Bool) (rest : List Char) :
    leading modes negated (']' :: rest) = (negated, .single ']', modes.skip rest) := rfl

theorem leading_of_other {c : Char} (noHyphen : c ≠ '-') (noBracket : c ≠ ']') (negated : Bool) (rest : List Char) :
    leading modes negated (c :: rest) = (negated, .empty, c :: rest) := by
  rw [leading.eq_def, leadingHyphens_eq_scan, scan_of_stops (by simpa using noHyphen)]
  simp only [List.isEmpty_nil, Bool.not_true]
  split
  · rename_i same
    exact absurd (List.cons.inj same).1 noBracket
  · rfl

theorem leading_cut {negated excluded : Bool} {set : CharSet}
    (read : leading modes negated (continued text more) = (excluded, set, left)) :
    (∃ rest, left = continued rest more ∧ leading modes negated text = (excluded, set, rest)) ∨ left <:+ more := by
  cases text with
  | nil =>
    rw [continued_nil, leading_of_other (by decide) (by decide)] at read
    cases read
    exact .inl ⟨[], rfl, rfl⟩
  | cons c text =>
    rw [continued_cons] at read
    by_cases hyphen : c = '-'
    · subst hyphen
      rw [leading_of_hyphen] at read ⊢
      cases read
      rw [← continued_cons]
      obtain ⟨rest, same, own⟩ | past :=
        scan_cut (by decide) (Nat.le_refl _) (Nat.le_refl _)
          (Eq.refl (scan modes (· == '-') (continued ('-' :: text) more).length (continued ('-' :: text) more)))
      · exact .inl ⟨rest, same, by rw [Option.some.inj own]⟩
      · exact .inr past
    · by_cases bracket : c = ']'
      · subst bracket
        rw [leading_of_bracket] at read ⊢
        cases read
        obtain kept | past := modes.skip_cut text more
        · exact .inl ⟨_, kept, rfl⟩
        · exact .inr past
      · rw [leading_of_other hyphen bracket] at read ⊢
        cases read
        exact .inl ⟨c :: text, rfl, rfl⟩

theorem opening_cut {negated : Bool} {set : CharSet}
    (read : opening modes (continued text more) = (negated, set, left)) :
    (∃ rest, left = continued rest more ∧ opening modes text = (negated, set, rest)) ∨ left <:+ more := by
  obtain ⟨c, rest, ahead, aheadWhole⟩ | ⟨none, past⟩ := modes.skip_continued text more
  · by_cases negation : c = '^'
    · subst negation
      rw [opening_of_circumflex aheadWhole] at read
      rw [opening_of_circumflex ahead]
      obtain kept | past := modes.skip_cut rest more
      · rw [kept] at read
        exact leading_cut read
      · have behind := leading_suffix modes true (modes.skip (continued rest more))
        rw [read] at behind
        exact .inr (behind.trans past)
    · rw [opening_of_other aheadWhole negation, ← continued_cons] at read
      rw [opening_of_other ahead negation]
      exact leading_cut read
  · obtain same | past := past
    · rw [opening_of_other same (by decide), ← continued_nil] at read
      rw [opening_of_nil none]
      exact leading_cut read
    · have behind := opening_suffix modes (continued text more)
      rw [read] at behind
      exact .inr (behind.trans past)

theorem item?_cut {item : Escape} (read : item? modes (continued text more) = some (item, left)) :
    Cuts more (item? modes text) item left ∨
      (∃ condition, item = .look condition) ∧ Escape.Dangles modes more left := by
  cases text with
  | nil => exact .inl (.inr (item?_suffix read))
  | cons c text =>
    rw [continued_cons, item?.eq_def] at read
    split at read
    · rename_i same
      cases same
    · rename_i same
      cases same
      exact Escape.read?_cut read
    · rename_i plain same
      cases same
      cases read
      refine .inl (.inl ⟨text, rfl, ?_⟩)
      rw [item?.eq_def]
      split
      · rename_i same
        cases same
      · rename_i same
        cases same
        exact absurd rfl plain
      · rename_i same
        cases same
        rfl

theorem elementFrom?_look (condition : Look) (text : List Char) : elementFrom? modes (.look condition) text = none := by
  unfold elementFrom?
  split
  · rfl
  · split
    · rfl
    · rename_i rest _ _
      cases item? modes (modes.skip rest) <;> rfl
  · rfl

theorem item?_past {item : Escape} {ahead : List Char} (past : Past more ahead)
    (read : item? modes ahead = some (item, left)) : left <:+ more := by
  cases ahead with
  | nil => cases read
  | cons c others => exact (item?_suffix read).trans past.behind

theorem elementFrom?_cut {first : Escape} {set : CharSet}
    (read : elementFrom? modes first (continued text more) = some (set, left)) :
    Cuts more (elementFrom? modes first text) set left ∨ left = ')' :: more := by
  obtain ⟨c, rest, ahead, aheadWhole⟩ | ⟨none, past⟩ := modes.skip_continued text more
  · simp only [elementFrom?, ahead, aheadWhole] at read ⊢
    split at read
    · rename_i same
      cases same
    · rename_i same
      cases same
      simp only
      split at read
      · rename_i keeps
        obtain ⟨found, members, same⟩ := Option.bind_eq_some_iff.1 read
        cases same
        rw [if_pos ((keepsHyphen_peek?_continued '-' rest more).1 keeps)]
        exact .inl (.inl ⟨'-' :: rest, rfl, by rw [members, Option.bind_some]⟩)
      · rename_i range
        obtain ⟨⟨last, behind⟩, item, read⟩ := Option.bind_eq_some_iff.1 read
        obtain ⟨found, members, same⟩ := Option.bind_eq_some_iff.1 read
        cases same
        rw [if_neg (fun keeps => range ((keepsHyphen_peek?_continued '-' rest more).2 keeps))]
        obtain kept | past := modes.skip_cut rest more
        · rw [kept] at item
          obtain cut | ⟨⟨condition, rfl⟩, -⟩ := item?_cut item
          · obtain ⟨rest', same, own⟩ | past := cut
            · exact .inl (.inl ⟨rest', same, by simp only [own, Option.bind_some, members]⟩)
            · exact .inl (.inr past)
          · cases first <;> cases members
        · exact .inl (.inr (item?_past (.inr past) item))
    · rename_i noHyphen
      obtain ⟨found, members, same⟩ := Option.bind_eq_some_iff.1 read
      cases same
      refine .inl (.inl ⟨c :: rest, rfl, ?_⟩)
      split
      · rename_i same
        cases same
      · rename_i same
        cases same
        exact absurd rfl (noHyphen _)
      · rw [members, Option.bind_some]
  · obtain same | past := past
    · simp only [elementFrom?, same] at read
      obtain ⟨found, -, same⟩ := Option.bind_eq_some_iff.1 read
      cases same
      exact .inr rfl
    · exact .inl (.inr ((elementFrom?_suffix read).trans past))

theorem element?_cut {set : CharSet} (read : element? modes (continued text more) = some (set, left)) :
    Cuts more (element? modes text) set left ∨ left = ')' :: more := by
  rw [element?_eq] at read ⊢
  obtain ⟨⟨first, after⟩, item, read⟩ := Option.bind_eq_some_iff.1 read
  obtain cut | ⟨⟨condition, rfl⟩, -⟩ := item?_cut item
  · obtain ⟨rest, rfl, own⟩ | past := cut
    · rw [own]
      exact elementFrom?_cut read
    · exact .inl (.inr (((elementFrom?_suffix read).trans (modes.skip_suffix after)).trans past))
  · rw [elementFrom?_look] at read
    cases read

theorem StartsElement.of_continued {c : Char} {others : List Char} (starts : StartsElement c (continued others more)) :
    StartsElement c others := by
  refine ⟨starts.noClose, starts.noOpen, ?_⟩
  intro mark doubled
  obtain ⟨rest, rfl⟩ := List.head?_eq_some_iff.1 doubled
  exact starts.single mark rfl

theorem elements?_past {fuel : Nat} {pending : Pending} {sofar set : CharSet}
    (read : elements? modes fuel pending sofar (')' :: more) = some (set, left)) : left <:+ more := by
  obtain ⟨c, rest, ahead, -⟩ | ⟨-, past⟩ := modes.skip_continued [] more
  · rw [Modes.skip_nil] at ahead
    cases ahead
  · exact (takesNext_of_elements? read).past past

def CutsElements (modes : Modes) (more : List Char) (fuel : Nat) : Prop :=
  ∀ {more' : Nat} {pending : Pending} {sofar set : CharSet} {text left : List Char}, text.length < fuel →
    elements? modes more' pending sofar (continued text more) = some (set, left) →
      Cuts more (elements? modes fuel pending sofar text) set left

theorem nested?_cut {fuel more' : Nat} {pending : Pending} {sofar set : CharSet} (cuts : CutsElements modes more fuel)
    (enough : text.length < fuel) (read : nested? modes more' pending sofar (continued text more) = some (set, left)) :
    Cuts more (nested? modes fuel pending sofar text) set left := by
  cases opens : opening modes (continued text more) with
  | mk negated start =>
    obtain ⟨first, after⟩ := start
    simp only [nested?, opens] at read
    obtain ⟨⟨members, behind⟩, inner, read⟩ := Option.bind_eq_some_iff.1 read
    obtain ⟨folded, closes, read⟩ := Option.bind_eq_some_iff.1 read
    have later := (takesNext_of_elements? inner).suffix
    have last := (takesNext_of_elements? read).suffix
    obtain ⟨rest, rfl, own⟩ | past := opening_cut opens
    · have start := (opening_suffix modes text).trans (modes.skip_suffix text)
      rw [own] at start
      have shorter := start.length_le
      obtain ⟨rest', rfl, ownInner⟩ | past := cuts (Nat.lt_of_le_of_lt shorter enough) inner
      · have shorter' := (takesNext_of_elements? ownInner).suffix.length_le
        obtain ⟨rest'', rfl, ownRest⟩ | past := cuts (by omega) read
        · exact .inl ⟨rest'', rfl, by simp only [nested?, own, ownInner, Option.bind_some, closes, ownRest]⟩
        · exact .inr past
      · exact .inr (last.trans past)
    · exact .inr ((last.trans later).trans past)

theorem elements?_bracket_cut {fuel more' : Nat} {pending : Pending} {sofar set : CharSet} {rest : List Char}
    (cuts : CutsElements modes more fuel) (enough : rest.length < fuel) (ahead : modes.skip text = '[' :: rest)
    (aheadWhole : modes.skip (continued text more) = '[' :: continued rest more)
    (read : elements? modes (more' + 1) pending sofar (continued text more) = some (set, left)) :
    Cuts more (elements? modes (fuel + 1) pending sofar text) set left := by
  cases named : named? (continued rest more) with
  | some found =>
    rw [elements?_of_named aheadWhole named] at read
    obtain ⟨folded, closes, read⟩ := Option.bind_eq_some_iff.1 read
    obtain same | ⟨-, past⟩ := named?_continued rest more
    · obtain ⟨⟨negated, members, after⟩, own, rfl⟩ := Option.map_eq_some_iff.1 (same.symm.trans named)
      have behind := (named?_suffix own).length_le
      rw [elements?_of_named ahead own, closes]
      exact cuts (Nat.lt_of_le_of_lt behind enough) read
    · exact .inr ((takesNext_of_elements? read).suffix.trans (past _ named))
  | none =>
    have unnamed : named? rest = none := by
      obtain same | ⟨none, -⟩ := named?_continued rest more
      · exact Option.map_eq_none_iff.1 (same.symm.trans named)
      · exact none
    rw [elements?_of_nested aheadWhole named] at read
    rw [elements?_of_nested ahead unnamed]
    exact nested?_cut cuts enough read

theorem elements?_element_cut {fuel more' : Nat} {pending : Pending} {sofar set : CharSet} {c : Char} {rest : List Char}
    (cuts : CutsElements modes more fuel) (enough : rest.length < fuel) (ahead : modes.skip text = c :: rest)
    (aheadWhole : modes.skip (continued text more) = c :: continued rest more)
    (starts : StartsElement c (continued rest more))
    (read : elements? modes (more' + 1) pending sofar (continued text more) = some (set, left)) :
    Cuts more (elements? modes (fuel + 1) pending sofar text) set left := by
  rw [elements?_of_startsElement aheadWhole starts] at read
  rw [elements?_of_startsElement ahead starts.of_continued]
  obtain ⟨⟨members, after⟩, element, read⟩ := Option.bind_eq_some_iff.1 read
  rw [← continued_cons] at element
  obtain cut | rfl := element?_cut element
  · obtain ⟨behind, rfl, own⟩ | past := cut
    · rw [own]
      exact cuts (Nat.lt_of_le_of_lt (element?_suffix own).length_le enough) read
    · exact .inr ((takesNext_of_elements? read).suffix.trans past)
  · exact .inr (elements?_past read)

/-- A class that ends before the parenthesis is read in the same way, whatever stands behind it. -/
theorem cutsElements (modes : Modes) (more : List Char) (fuel : Nat) : CutsElements modes more fuel := by
  induction fuel with
  | zero =>
    intro more' pending sofar set text left enough read
    omega
  | succ fuel ih =>
    intro more' pending sofar set text left enough read
    cases more' with
    | zero => cases read
    | succ more' =>
      obtain ⟨c, rest, ahead, aheadWhole⟩ | ⟨none, past⟩ := modes.skip_continued text more
      · have shorter := Modes.length_lt_of_ahead ahead
        have whole := read
        rw [elements?.eq_def] at read
        simp only [aheadWhole] at read
        split at read
        · rename_i same
          cases same
        · rename_i same
          cases same
          cases read
          exact .inl ⟨rest, rfl, by simp only [elements?, ahead]⟩
        iterate 3
          · rename_i same
            obtain ⟨rfl, behind⟩ := List.cons.inj same
            obtain ⟨others, rfl, rfl⟩ := exists_of_continued_eq_cons (by decide) behind
            rw [List.length_cons] at shorter
            simp only [elements?, ahead]
            exact ih (by omega) read
        · rename_i same
          cases same
          exact elements?_bracket_cut ih (by omega) ahead aheadWhole whole
        · rename_i noClose noAnd noMinus noTilde noOpen
          have starts : StartsElement c (continued rest more) := by
            refine ⟨fun same => noClose _ (congrArg (· :: _) same), fun same => noOpen _ (congrArg (· :: _) same), ?_⟩
            intro mark doubled
            obtain ⟨others, same⟩ := List.head?_eq_some_iff.1 doubled
            rw [same] at noAnd noMinus noTilde
            obtain rfl | rfl | rfl := mark
            · exact noAnd _ rfl
            · exact noMinus _ rfl
            · exact noTilde _ rfl
          exact elements?_element_cut ih (by omega) ahead aheadWhole starts whole
      · exact .inr ((takesNext_of_elements? read).past past)

theorem read?_cut {set : CharSet} (read : read? modes (continued text more) = some (set, left)) :
    Cuts more (read? modes text) set left := by
  rw [read?] at read ⊢
  cases opens : opening modes (continued text more) with
  | mk negated start =>
    obtain ⟨first, after⟩ := start
    simp only [opens, Option.bind_eq_bind] at read ⊢
    obtain ⟨⟨members, behind⟩, inner, read⟩ := Option.bind_eq_some_iff.1 read
    obtain ⟨folded, closes, same⟩ := Option.bind_eq_some_iff.1 read
    cases same
    obtain ⟨rest, rfl, own⟩ | past := opening_cut opens
    · have start := (opening_suffix modes text).trans (modes.skip_suffix text)
      rw [own] at start
      have shorter := Nat.lt_succ_of_le start.length_le
      obtain ⟨rest', rfl, ownInner⟩ | past := cutsElements modes more _ shorter inner
      · exact .inl ⟨rest', rfl, by simp only [own, ownInner, Option.bind_some, closes]⟩
      · exact .inr past
    · exact .inr ((takesNext_of_elements? inner).suffix.trans past)

end Brackets

end Criteria.Pattern
