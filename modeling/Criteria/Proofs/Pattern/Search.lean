import Criteria.Pattern.Basic
import Criteria.Proofs.Pattern.Matching
import Mathlib.Algebra.Group.Nat.Defs

/-!
The search finds what the matches are. Each operation on sets of positions leads from the places where a
match may start to the places where it can end; for repetitions this holds because a bounded number of
them reaches everything, and because the search may stop once a step adds nothing.
-/
namespace Criteria.Pattern

theorem testBit_indices {α : Type} (test : α → Bool) (items : List α) (i : Nat) :
    (indices test items).testBit i = true ↔ ∃ x, items[i]? = some x ∧ test x = true := by
  induction items generalizing i with
  | nil => simp [indices]
  | cons x rest ih =>
    cases i with
    | zero => cases held : test x <;> simp [indices, held, Nat.testBit_zero]
    | succ i =>
      have half : (2 * indices test rest + (if test x then 1 else 0)) / 2 = indices test rest := by
        split <;> omega
      rw [indices, Nat.testBit_succ, half, ih, List.getElem?_cons_succ]

theorem getElem?_neighbours (before : Option Char) (text : List Char) (i : Nat) (inside : i ≤ text.length) :
    (neighbours before text)[i]? = some (if i = 0 then before else text[i - 1]?, text[i]?) := by
  induction text generalizing before i with
  | nil =>
    obtain rfl : i = 0 := Nat.le_zero.1 inside
    rfl
  | cons c rest ih =>
    cases i with
    | zero => rfl
    | succ i =>
      rw [neighbours, List.getElem?_cons_succ, ih _ i (Nat.le_of_succ_le_succ inside), if_neg (Nat.succ_ne_zero i),
        List.getElem?_cons_succ, Nat.add_sub_cancel]
      cases i with
      | zero => rfl
      | succ i => rfl

def Within (last positions : Nat) : Prop := ∀ i, positions.testBit i = true → i ≤ last

def Realizes (last : Nat) (step : Nat → Nat) (relation : Nat → Nat → Prop) : Prop :=
  ∀ positions, Within last positions → ∀ k,
    (step positions).testBit k = true ↔ ∃ i, positions.testBit i = true ∧ relation i k

section Steps

variable {last : Nat} {step : Nat → Nat} {relation : Nat → Nat → Prop}

theorem Realizes.within (realizes : Realizes last step relation)
    (inside : ∀ i k, relation i k → i ≤ last → k ≤ last) {positions : Nat} (within : Within last positions) :
    Within last (step positions) := by
  intro k reached
  obtain ⟨i, start, related⟩ := (realizes positions within k).1 reached
  exact inside i k related (within i start)

theorem realizes_repeated (realizes : Realizes last step relation)
    (inside : ∀ i k, relation i k → i ≤ last → k ≤ last) (count : Nat) :
    Realizes last (repeated step count) (Repeats relation count) := by
  induction count with
  | zero =>
    intro positions _ k
    simp [repeated, Repeats]
  | succ count ih =>
    intro positions within k
    rw [repeated, ih _ (realizes.within inside within)]
    constructor
    · intro reached
      obtain ⟨j, later, rest⟩ := reached
      obtain ⟨i, start, first⟩ := (realizes positions within j).1 later
      exact ⟨i, start, j, first, rest⟩
    · intro reached
      obtain ⟨i, start, j, first, rest⟩ := reached
      exact ⟨j, (realizes positions within j).2 ⟨i, start, first⟩, rest⟩

theorem testBit_of_settled (realizes : Realizes last step relation) {positions : Nat} (within : Within last positions)
    (settled : positions ||| step positions = positions) {count i k : Nat} (start : positions.testBit i = true)
    (steps : Repeats relation count i k) : positions.testBit k = true := by
  induction count generalizing i with
  | zero =>
    obtain rfl : i = k := steps
    exact start
  | succ count ih =>
    obtain ⟨j, first, rest⟩ := steps
    have next : positions.testBit j = true := by
      rw [← settled, Nat.testBit_or, (realizes positions within j).2 ⟨i, start, first⟩, Bool.or_true]
    exact ih next rest

theorem realizes_reached (realizes : Realizes last step relation)
    (inside : ∀ i k, relation i k → i ≤ last → k ≤ last) (limit : Nat) :
    Realizes last (reached step limit) fun i k => ∃ count, count ≤ limit ∧ Repeats relation count i k := by
  induction limit with
  | zero =>
    intro positions _ k
    simp [reached, Repeats]
  | succ limit ih =>
    intro positions within k
    have next : ∀ j, (positions ||| step positions).testBit j = true ↔
        positions.testBit j = true ∨ ∃ i, positions.testBit i = true ∧ relation i j := by
      intro j
      rw [Nat.testBit_or, Bool.or_eq_true, realizes positions within]
    have nextWithin : Within last (positions ||| step positions) := by
      intro j member
      obtain old | ⟨i, start, related⟩ := (next j).1 member
      · exact within j old
      · exact inside i j related (within i start)
    unfold reached
    simp only
    split
    · -- Nothing new is reached, so the search stops before its limit.
      rename_i settled
      constructor
      · exact fun member => ⟨k, member, 0, Nat.zero_le _, rfl⟩
      · intro reached
        obtain ⟨i, start, count, -, steps⟩ := reached
        exact testBit_of_settled realizes within settled start steps
    · rw [ih _ nextWithin]
      constructor
      · intro reached
        obtain ⟨j, member, count, few, steps⟩ := reached
        obtain old | ⟨i, start, related⟩ := (next j).1 member
        · exact ⟨j, old, count, by omega, steps⟩
        · exact ⟨i, start, count + 1, by omega, j, related, steps⟩
      · intro reached
        obtain ⟨i, start, count, few, steps⟩ := reached
        cases count with
        | zero => exact ⟨i, (next i).2 (.inl start), 0, Nat.zero_le _, steps⟩
        | succ count =>
          obtain ⟨j, first, rest⟩ := steps
          exact ⟨j, (next j).2 (.inr ⟨i, start, first⟩), count, by omega, rest⟩

end Steps

def extra (limit least : Nat) : (most : Option Nat) → Nat
  | none => limit
  | some bound => min (bound - least) limit

theorem le_extra_iff (limit least count : Nat) (most : Option Nat) :
    count ≤ extra limit least most ↔ count ≤ limit ∧ ∀ bound, most = some bound → count ≤ bound - least := by
  cases most with
  | none => simp [extra]
  | some bound =>
    simp only [extra, Option.some.injEq, forall_eq']
    omega

/-- A number of repetitions within the bounds can be cut down to what the search makes, and back. -/
theorem exists_repeats_iff {step : Nat → Nat → Prop} (ordered : ∀ i j, step i j → i ≤ j) {limit i k : Nat}
    (long : k < i + limit) {least : Nat} {most : Option Nat} (order : ∀ bound, most = some bound → least ≤ bound) :
    (∃ j, Repeats step (min least limit) i j ∧ ∃ count, count ≤ extra limit least most ∧ Repeats step count j k) ↔
      ∃ count, least ≤ count ∧ (∀ bound, most = some bound → count ≤ bound) ∧ Repeats step count i k := by
  have cut : ∀ {first second}, limit ≤ first → limit ≤ second → Repeats step first i k → Repeats step second i k :=
    fun enough more steps =>
      (repeats_iff_of_long ordered more long).2 ((repeats_iff_of_long ordered enough long).1 steps)
  constructor
  · intro steps
    obtain ⟨j, first, count, few, rest⟩ := steps
    obtain ⟨-, fewer⟩ := (le_extra_iff limit least count most).1 few
    have total := (repeats_add (min least limit) count i k).2 ⟨j, first, rest⟩
    by_cases short : least ≤ limit
    · rw [Nat.min_eq_left short] at total
      refine ⟨least + count, Nat.le_add_right _ _, ?_, total⟩
      intro bound limited
      have room := fewer bound limited
      have enough := order bound limited
      omega
    · rw [Nat.min_eq_right (by omega)] at total
      exact ⟨least, Nat.le_refl _, order, cut (by omega) (by omega) total⟩
  · intro steps
    obtain ⟨count, enough, few, steps⟩ := steps
    suffices split : ∃ more, more ≤ extra limit least most ∧ Repeats step (min least limit + more) i k by
      obtain ⟨more, few, total⟩ := split
      obtain ⟨j, first, rest⟩ := (repeats_add _ _ _ _).1 total
      exact ⟨j, first, more, few, rest⟩
    have room : ∀ bound, most = some bound → count - least ≤ bound - least :=
      fun bound limited => Nat.sub_le_sub_right (few bound limited) least
    by_cases short : least ≤ limit
    · rw [Nat.min_eq_left short]
      by_cases low : count - least ≤ limit
      · refine ⟨count - least, (le_extra_iff _ _ _ _).2 ⟨low, room⟩, ?_⟩
        rwa [Nat.add_sub_cancel' enough]
      · refine ⟨limit, (le_extra_iff _ _ _ _).2 ⟨Nat.le_refl _, ?_⟩, cut (by omega) (by omega) steps⟩
        intro bound limited
        have reach := room bound limited
        omega
    · rw [Nat.min_eq_right (by omega)]
      exact ⟨0, Nat.zero_le _, cut (by omega) (by omega) steps⟩

theorem ends_times (inner : Track) (limit least : Nat) (most : Option Nat) (starts : Nat) :
    (Track.times inner least most).ends limit starts =
      reached (inner.ends limit) (extra limit least most) (repeated (inner.ends limit) (min least limit) starts) := by
  cases most <;> rfl

namespace Expr

def Bounded : Expr → Prop
  | .sequence first second => Bounded first ∧ Bounded second
  | .choice left right => Bounded left ∧ Bounded right
  | .times inner least most => Bounded inner ∧ ∀ bound, most = some bound → least ≤ bound
  | _ => True

/-- The search for an expression leads from the starts of its matches to their ends. -/
def Tracked (text : List Char) (expr : Expr) : Prop :=
  Realizes text.length ((Track.ofExpr (neighbours none text) expr).ends (text.length + 1)) (Spans text expr)

section Tracked

variable {text : List Char}

theorem spans_inside (expr : Expr) : ∀ i k, Spans text expr i k → i ≤ text.length → k ≤ text.length :=
  fun _ _ spans => spans.bounds.2

theorem tracked_empty : Tracked text .empty := by
  intro starts _ k
  rw [Track.ofExpr, Track.ends]
  simp only [spans_empty_iff, exists_eq_right]

theorem tracked_look (condition : Look) : Tracked text (.look condition) := by
  intro starts within k
  rw [Track.ofExpr, Track.ends, Nat.testBit_and, Bool.and_eq_true, testBit_indices]
  simp only [spans_look_iff]
  constructor
  · intro stays
    obtain ⟨start, sides, found, holds⟩ := stays
    rw [getElem?_neighbours none text k (within k start), Option.some.injEq] at found
    subst found
    exact ⟨k, start, rfl, holds⟩
  · intro stays
    obtain ⟨i, start, rfl, holds⟩ := stays
    exact ⟨start, _, getElem?_neighbours none text i (within i start), holds⟩

theorem tracked_one (set : CharSet) : Tracked text (.one set) := by
  intro starts within k
  rw [Track.ofExpr, Track.ends, Nat.testBit_shiftLeft, Bool.and_eq_true, decide_eq_true_iff, Nat.testBit_and,
    Bool.and_eq_true, testBit_indices]
  simp only [spans_one_iff]
  constructor
  · intro moves
    obtain ⟨behind, start, sides, found, member⟩ := moves
    rw [getElem?_neighbours none text (k - 1) (within _ start), Option.some.injEq] at found
    subst found
    exact ⟨k - 1, start, (Nat.sub_add_cancel behind).symm, member⟩
  · intro moves
    obtain ⟨i, start, rfl, member⟩ := moves
    rw [Nat.add_sub_cancel]
    exact ⟨Nat.le_add_left 1 i, start, _, getElem?_neighbours none text i (within i start), member⟩

theorem tracked_sequence {first second : Expr} (one : Tracked text first) (other : Tracked text second) :
    Tracked text (.sequence first second) := by
  intro starts within k
  have middle := one.within (spans_inside first) within
  rw [Track.ofExpr, Track.ends, other _ middle]
  simp only [one starts within, spans_sequence_iff]
  constructor
  · intro reached
    obtain ⟨j, ⟨i, start, left⟩, right⟩ := reached
    exact ⟨i, start, j, left, right⟩
  · intro reached
    obtain ⟨i, start, j, left, right⟩ := reached
    exact ⟨j, ⟨i, start, left⟩, right⟩

theorem tracked_choice {left right : Expr} (one : Tracked text left) (other : Tracked text right) :
    Tracked text (.choice left right) := by
  intro starts within k
  rw [Track.ofExpr, Track.ends, Nat.testBit_or, Bool.or_eq_true, one starts within, other starts within]
  simp only [spans_choice_iff, and_or_left, exists_or]

theorem repeats_inside (expr : Expr) (count : Nat) :
    ∀ i k, Repeats (Spans text expr) count i k → i ≤ text.length → k ≤ text.length := by
  induction count with
  | zero => exact fun i k same inside => same ▸ inside
  | succ count ih =>
    intro i k steps inside
    obtain ⟨j, first, rest⟩ := steps
    exact ih j k rest (spans_inside expr i j first inside)

theorem tracked_times {inner : Expr} (step : Tracked text inner) {least : Nat} {most : Option Nat}
    (order : ∀ bound, most = some bound → least ≤ bound) : Tracked text (.times inner least most) := by
  intro starts within k
  have ordered : ∀ i j, Spans text inner i j → i ≤ j := fun i j spans => spans.bounds.1
  have enough := realizes_repeated step (spans_inside inner) (min least (text.length + 1))
  have middle := enough.within (repeats_inside inner _) within
  rw [Track.ofExpr, ends_times, realizes_reached step (spans_inside inner) _ _ middle]
  simp only [enough starts within, spans_times_iff]
  constructor
  · intro reached
    obtain ⟨j, ⟨i, start, first⟩, count, few, rest⟩ := reached
    have last : k ≤ text.length := repeats_inside inner _ _ _ rest (repeats_inside inner _ _ _ first (within i start))
    have long : k < i + (text.length + 1) := by omega
    exact ⟨i, start, (exists_repeats_iff ordered long order).1 ⟨j, first, count, few, rest⟩⟩
  · intro reached
    obtain ⟨i, start, count, least, few, steps⟩ := reached
    have last : k ≤ text.length := repeats_inside inner _ _ _ steps (within i start)
    have long : k < i + (text.length + 1) := by omega
    obtain ⟨j, first, rest⟩ := (exists_repeats_iff ordered long order).2 ⟨count, least, few, steps⟩
    exact ⟨j, ⟨i, start, first⟩, rest⟩

theorem tracked_of_bounded {expr : Expr} (bounded : expr.Bounded) : Tracked text expr := by
  induction expr with
  | empty => exact tracked_empty
  | one set => exact tracked_one set
  | look condition => exact tracked_look condition
  | sequence first second one other => exact tracked_sequence (one bounded.1) (other bounded.2)
  | choice left right one other => exact tracked_choice (one bounded.1) (other bounded.2)
  | times inner least most step => exact tracked_times (step bounded.1) bounded.2

end Tracked

theorem ne_zero_iff_exists_testBit (n : Nat) : n ≠ 0 ↔ ∃ i, n.testBit i = true := by
  constructor
  · exact Nat.exists_testBit_of_ne_zero
  · intro bit zero
    obtain ⟨i, set⟩ := bit
    rw [zero, Nat.zero_testBit] at set
    cases set

/-- The search succeeds exactly if there is a match somewhere in the text. -/
theorem matchesSomewhere_iff {expr : Expr} (bounded : expr.Bounded) (text : List Char) :
    expr.matchesSomewhere text = true ↔ ∃ i j, i ≤ text.length ∧ Spans text expr i j := by
  have within : Within text.length (2 ^ (text.length + 1) - 1) := by
    intro i start
    rw [Nat.testBit_two_pow_sub_one, decide_eq_true_iff] at start
    omega
  rw [matchesSomewhere, bne_iff_ne, ne_zero_iff_exists_testBit, endsFrom]
  simp only [tracked_of_bounded bounded _ within, Nat.testBit_two_pow_sub_one, decide_eq_true_iff, Nat.lt_succ_iff]
  exact exists_comm

theorem matchesAtStart_iff {expr : Expr} (bounded : expr.Bounded) (text : List Char) :
    expr.matchesAtStart text = true ↔ ∃ j, Spans text expr 0 j := by
  have within : Within text.length 1 := by
    intro i start
    rw [Nat.testBit_one_eq_true_iff_self_eq_zero] at start
    omega
  rw [matchesAtStart, bne_iff_ne, ne_zero_iff_exists_testBit, endsFrom]
  simp only [tracked_of_bounded bounded _ within, Nat.testBit_one_eq_true_iff_self_eq_zero, exists_eq_left]

end Expr

end Criteria.Pattern
