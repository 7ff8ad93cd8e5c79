import Criteria.Pattern.Expr

/-!
What expressions match. A match never ends before it starts, so among more repetitions than there are
positions one stays where it is; it can be left out, and it can be made once more. The alternatives of an
expression are the branches of its outermost choices.
-/
namespace Criteria.Pattern

def Repeats (step : Nat → Nat → Prop) : (count : Nat) → Nat → Nat → Prop
  | 0, i, j => i = j
  | count + 1, i, k => ∃ j, step i j ∧ Repeats step count j k

section Repeats

variable {step : Nat → Nat → Prop}

theorem repeats_add (first second i k : Nat) :
    Repeats step (first + second) i k ↔ ∃ j, Repeats step first i j ∧ Repeats step second j k := by
  induction first generalizing i with
  | zero => simp [Repeats]
  | succ first ih =>
    rw [Nat.succ_add_eq_add_succ, Nat.add_succ, Repeats]
    simp only [ih, Repeats]
    constructor
    · intro steps
      obtain ⟨m, one, j, others, rest⟩ := steps
      exact ⟨j, ⟨m, one, others⟩, rest⟩
    · intro steps
      obtain ⟨j, ⟨m, one, others⟩, rest⟩ := steps
      exact ⟨m, one, j, others, rest⟩

/-- Among more steps than positions there is one that stays where it is. -/
theorem Repeats.exists_stay (ordered : ∀ i j, step i j → i ≤ j) {count i k : Nat}
    (steps : Repeats step count i k) (long : k < i + count) :
    ∃ j before after, before + 1 + after = count ∧ Repeats step before i j ∧ step j j ∧ Repeats step after j k := by
  induction count generalizing i with
  | zero =>
    have same : i = k := steps
    omega
  | succ count ih =>
    obtain ⟨j, first, rest⟩ := steps
    have order := ordered i j first
    -- A first step that moves leaves fewer positions for the steps behind it.
    by_cases stays : i = j
    · subst stays
      exact ⟨i, 0, count, by omega, rfl, first, rest⟩
    · obtain ⟨m, before, after, total, reach, stay, others⟩ := ih rest (by omega)
      exact ⟨m, before + 1, after, by omega, ⟨j, first, reach⟩, stay, others⟩

theorem repeats_succ_iff (ordered : ∀ i j, step i j → i ≤ j) {count i k : Nat} (long : k < i + count) :
    Repeats step (count + 1) i k ↔ Repeats step count i k := by
  -- The step that stays is left out one way, and made twice the other way.
  constructor
  · intro steps
    obtain ⟨j, before, after, total, reach, -, others⟩ := steps.exists_stay ordered (by omega)
    obtain rfl : count = before + after := by omega
    exact (repeats_add before after i k).2 ⟨j, reach, others⟩
  · intro steps
    obtain ⟨j, before, after, total, reach, stay, others⟩ := steps.exists_stay ordered long
    have twice : count + 1 = before + (after + 2) := by omega
    rw [twice]
    exact (repeats_add before (after + 2) i k).2 ⟨j, reach, j, stay, j, stay, others⟩

theorem repeats_iff_of_long (ordered : ∀ i j, step i j → i ≤ j) {limit count i k : Nat} (enough : limit ≤ count)
    (long : k < i + limit) : Repeats step count i k ↔ Repeats step limit i k := by
  obtain ⟨more, rfl⟩ := Nat.exists_eq_add_of_le enough
  clear enough
  induction more with
  | zero => rfl
  | succ more ih => rw [← Nat.add_assoc, repeats_succ_iff ordered (by omega), ih]

end Repeats

namespace Expr

theorem Spans.bounds {text : List Char} {expr : Expr} {i j : Nat} (spans : Spans text expr i j) :
    i ≤ j ∧ (i ≤ text.length → j ≤ text.length) := by
  induction spans with
  | empty i => exact ⟨Nat.le_refl i, id⟩
  | look holds => exact ⟨Nat.le_refl _, id⟩
  | never i => exact ⟨Nat.le_refl i, id⟩
  | one found member =>
    obtain ⟨inside, -⟩ := List.getElem?_eq_some_iff.1 found
    omega
  | sequence left right first second => omega
  | left taken inside => exact inside
  | right taken inside => exact inside
  | again room first rest one others => omega

theorem spans_empty_iff {text : List Char} {i j : Nat} : Spans text .empty i j ↔ i = j := by
  constructor
  · intro spans
    cases spans
    rfl
  · intro same
    subst same
    exact .empty i

theorem spans_one_iff {text : List Char} {set : CharSet} {i j : Nat} :
    Spans text (.one set) i j ↔ j = i + 1 ∧ text[i]?.any set.contains = true := by
  rw [Option.any_eq_true]
  constructor
  · intro spans
    cases spans with
    | one found member => exact ⟨rfl, _, found, member⟩
  · intro step
    obtain ⟨rfl, c, found, member⟩ := step
    exact .one found member

theorem spans_look_iff {text : List Char} {condition : Look} {i j : Nat} :
    Spans text (.look condition) i j ↔ i = j ∧ condition.holds (before? text i) text[i]? = true := by
  constructor
  · intro spans
    cases spans with
    | look holds => exact ⟨rfl, holds⟩
  · intro stay
    obtain ⟨rfl, holds⟩ := stay
    exact .look holds

theorem spans_sequence_iff {text : List Char} {first second : Expr} {i k : Nat} :
    Spans text (.sequence first second) i k ↔ ∃ j, Spans text first i j ∧ Spans text second j k := by
  constructor
  · intro spans
    cases spans with
    | sequence left right => exact ⟨_, left, right⟩
  · intro parts
    obtain ⟨j, left, right⟩ := parts
    exact .sequence left right

theorem spans_choice_iff {text : List Char} {left right : Expr} {i j : Nat} :
    Spans text (.choice left right) i j ↔ Spans text left i j ∨ Spans text right i j := by
  constructor
  · intro spans
    cases spans with
    | left taken => exact .inl taken
    | right taken => exact .inr taken
  · intro taken
    exact taken.elim .left .right

theorem spans_times_iff {text : List Char} {inner : Expr} {least i k : Nat} {most : Option Nat} :
    Spans text (.times inner least most) i k ↔
      ∃ count, least ≤ count ∧ (∀ bound, most = some bound → count ≤ bound) ∧
        Repeats (Spans text inner) count i k := by
  constructor
  · intro spans
    generalize same : Expr.times inner least most = expr at spans
    induction spans generalizing least most with
    | empty | one | look | sequence | left | right => cases same
    | never i =>
      cases same
      exact ⟨0, Nat.le_refl 0, fun _ _ => Nat.zero_le _, rfl⟩
    | again room first rest _ others =>
      cases same
      obtain ⟨count, enough, few, steps⟩ := others rfl
      refine ⟨count + 1, by omega, ?_, _, first, steps⟩
      intro bound limited
      subst limited
      have fewer := few (bound - 1) rfl
      have some : bound ≠ 0 := fun none => room (congrArg Option.some none)
      omega
  · intro steps
    obtain ⟨count, enough, few, steps⟩ := steps
    induction count generalizing least most i with
    | zero =>
      obtain rfl : least = 0 := by omega
      obtain rfl : i = k := steps
      exact .never i
    | succ count ih =>
      obtain ⟨j, first, rest⟩ := steps
      have room : most ≠ some 0 := by
        intro none
        have some := few 0 none
        omega
      refine .again room first (ih (by omega) ?_ rest)
      intro bound limited
      cases most with
      | none => cases limited
      | some most =>
        have fewer := few most rfl
        obtain rfl : most - 1 = bound := Option.some.inj limited
        omega

/-- The branches of the outermost choices, from left to right. -/
def alternatives : Expr → List Expr
  | .choice left right => alternatives left ++ alternatives right
  | other => [other]

/-- An expression matches what one of its alternatives matches. -/
theorem spans_iff_alternatives {text : List Char} (expr : Expr) (i j : Nat) :
    Spans text expr i j ↔ ∃ branch ∈ expr.alternatives, Spans text branch i j := by
  induction expr with
  | choice left right leftBranches rightBranches =>
    rw [spans_choice_iff, leftBranches, rightBranches]
    simp only [alternatives, List.mem_append, or_and_right, exists_or]
  | empty | one | look | sequence | times => simp [alternatives]

end Expr

end Criteria.Pattern
