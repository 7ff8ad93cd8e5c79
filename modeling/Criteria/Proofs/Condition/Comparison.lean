import Criteria.Condition.Basic
import Criteria.Proofs.Condition.Acceptance
import Criteria.Proofs.Value.Denotation
import Mathlib.Tactic.NormNum

/-!
Numeric comparison is exact. Numeric values compare as the numbers that they stand for, with nothing rounded,
and a NaN compares with nothing; the conditions of the five operators that compare numbers answer as the
relations of the extended real line do.
-/
namespace Criteria

namespace Operator

def comparing : List Operator := [.eq, .gt, .gte, .lt, .lte]

/-- The relation to its reference that an operator asks of a number. The other operators ask for none. -/
def Relates : Operator → (found reference : EReal) → Prop
  | .eq, found, reference => found = reference
  | .gt, found, reference => found > reference
  | .gte, found, reference => found ≥ reference
  | .lt, found, reference => found < reference
  | .lte, found, reference => found ≤ reference
  | _, _, _ => False

def admits : Operator → Ordering → Bool
  | .eq, order => order.isEq
  | .gt, order => order.isGT
  | .gte, order => order.isGE
  | .lt, order => order.isLT
  | .lte, order => order.isLE
  | _, _ => false

theorem admits_iff {order : Ordering} {found reference : EReal} (compares : order.Compares found reference)
    (operator : Operator) : operator.admits order = true ↔ operator.Relates found reference := by
  have less := compares.eq_lt
  have same := compares.eq_eq
  have greater := compares.eq_gt
  have atLeast := compares.ne_lt
  have atMost := compares.ne_gt
  cases operator with
  | eq => rw [admits, Ordering.isEq_iff_eq_eq, same, Relates]
  | gt => rw [admits, Ordering.isGT_iff_eq_gt, greater, Relates, gt_iff_lt]
  | gte => rw [admits, Ordering.isGE_iff_ne_lt, ← ne_eq, atLeast, Relates, ge_iff_le]
  | lt => rw [admits, Ordering.isLT_iff_eq_lt, less, Relates]
  | lte => rw [admits, Ordering.isLE_iff_ne_gt, ← ne_eq, atMost, Relates]
  | isIn => exact iff_of_false nofun id
  | contains => exact iff_of_false nofun id
  | regex => exact iff_of_false nofun id

end Operator

theorem Condition.exists_make_comparing (path : Path) {reference : Value}
    (plain : reference.kind = .integer ∨ reference.kind = .float) {operator : Operator}
    (comparing : operator ∈ Operator.comparing) (negated : Bool) :
    ∃ condition : Condition, make path.text reference operator negated = .ok condition ∧ condition.path = path ∧
      condition.reference = reference ∧ condition.operator = operator ∧ condition.negated = negated := by
  have supported : reference.unsupportedPart? = none := by
    cases reference <;> simp [Value.kind] at plain <;> rfl
  have accepted : operator.accepts reference.kind = true := by
    rcases plain with integer | float
    · rw [integer]
      revert operator
      decide
    · rw [float]
      revert operator
      decide
  have notRegex : operator ≠ .regex := by
    intro regex
    simp [regex, Operator.comparing] at comparing
  exact exists_make_of_accepted path supported accepted notRegex negated

section Numbers

variable {found reference : Value} {number bound : Numeral} (left : found.numeral? = some number)
  (right : reference.numeral? = some bound)

include left right

theorem Value.compare?_eq_none_iff :
    number.compare? bound = none ↔ found.isNaN = true ∨ reference.isNaN = true := by
  rw [Numeral.compare?_eq, ← extent?_eq_none_iff left, ← extent?_eq_none_iff right]
  cases number.extent? <;> cases bound.extent? <;> simp

/-- The order of two numerals is that of the numbers. -/
theorem Value.compare?_compares {order : Ordering} (compared : number.compare? bound = some order) :
    order.Compares found.toEReal reference.toEReal := by
  rw [Numeral.compare?_eq] at compared
  obtain ⟨here, isHere, rest⟩ := Option.bind_eq_some_iff.1 compared
  obtain ⟨there, isThere, rfl⟩ := Option.map_eq_some_iff.1 rest
  have denoted : found.extent? = some here := by rw [extent?, left]; exact isHere
  have bounded : reference.extent? = some there := by rw [extent?, right]; exact isThere
  rw [← toEReal_of_extent? denoted, ← toEReal_of_extent? bounded]
  exact here.compare_compares there

theorem Value.equals_eq_any_isEq (plain : reference.kind = .integer ∨ reference.kind = .float) :
    found.equals reference = (number.compare? bound).any Ordering.isEq := by
  have same : found.equals reference = found.sameNumber reference := by
    fun_cases equals found reference with
    | case6 => rfl
    | case1 => simp [kind] at plain
    | case2 => simp [kind] at plain
    | case3 => simp [kind] at plain
    | case4 => simp [kind] at plain
    | case5 => simp [kind] at plain
  rw [same, sameNumber, left, right]
  dsimp only
  rw [Numeral.same]
  cases number.compare? bound with
  | none => rfl
  | some order => cases order <;> rfl

theorem Test.answer_ofComparison {operator : Operator} {comparison : Comparison} {test : Test}
    (made : ofComparison operator comparison reference = .ok test) :
    test.answer found = .ok ((number.compare? bound).any comparison.accepts) := by
  rw [ofComparison, right] at made
  obtain rfl := Except.ok.inj made
  rw [answer, left]

theorem Test.answer_eq_any_admits (plain : reference.kind = .integer ∨ reference.kind = .float)
    {operator : Operator} (comparing : operator ∈ Operator.comparing) {test : Test}
    (made : make operator reference = .ok test) :
    test.answer found = .ok ((number.compare? bound).any operator.admits) := by
  cases operator with
  | eq =>
    obtain rfl := Except.ok.inj made
    exact congrArg Except.ok (Value.equals_eq_any_isEq left right plain)
  | gt => exact answer_ofComparison left right made
  | gte => exact answer_ofComparison left right made
  | lt => exact answer_ofComparison left right made
  | lte => exact answer_ofComparison left right made
  | isIn => simp [Operator.comparing] at comparing
  | contains => simp [Operator.comparing] at comparing
  | regex => simp [Operator.comparing] at comparing

theorem Condition.exists_evaluate_eq_any_admits (plain : reference.kind = .integer ∨ reference.kind = .float)
    {operator : Operator} (comparing : operator ∈ Operator.comparing) {path : Path} {document : Value}
    (resolved : path.resolve document = found) :
    ∃ condition, make path.text reference operator false = .ok condition ∧
      condition.evaluate document = .ok ((number.compare? bound).any operator.admits) := by
  obtain ⟨condition, made, samePath, rfl, rfl, plainly⟩ := exists_make_comparing path plain comparing false
  have answered := Test.answer_eq_any_admits left right plain comparing condition.made
  refine ⟨condition, made, ?_⟩
  simp only [evaluate, samePath, resolved, answered, plainly, Bool.bne_false]

theorem Value.any_admits_iff (operator : Operator) :
    (number.compare? bound).any operator.admits = true ↔
      found.isNaN = false ∧ reference.isNaN = false ∧ operator.Relates found.toEReal reference.toEReal := by
  have unordered := compare?_eq_none_iff left right
  cases compared : number.compare? bound with
  | none =>
    apply iff_of_false nofun
    intro related
    obtain ⟨isNumber, isBound, -⟩ := related
    simp [isNumber, isBound, compared] at unordered
  | some order =>
    have numbers : found.isNaN = false ∧ reference.isNaN = false := by simpa [compared] using unordered
    rw [Option.any_some, Operator.admits_iff (compare?_compares left right compared)]
    simp only [numbers, true_and]

end Numbers

/-- Numeric comparison is exact: two numerics are unordered only beside a NaN and ordered as the numbers that
they stand for otherwise, and a condition that is not negated answers by that order. -/
theorem Condition.comparison_exact {found reference : Value} {number bound : Numeral}
    (left : found.numeral? = some number) (right : reference.numeral? = some bound) :
    (number.compare? bound = none ↔ found.isNaN = true ∨ reference.isNaN = true) ∧
    (∀ order, number.compare? bound = some order → order.Compares found.toEReal reference.toEReal) ∧
    ∀ (path : Path) (document : Value), path.resolve document = found →
      reference.kind = .integer ∨ reference.kind = .float →
      ∃ answer : Operator → Bool,
        (∀ operator ∈ Operator.comparing,
          (∃ condition, make path.text reference operator false = .ok condition ∧
            condition.evaluate document = .ok (answer operator)) ∧
          (answer operator = true ↔ found.isNaN = false ∧ reference.isNaN = false ∧
            operator.Relates found.toEReal reference.toEReal)) ∧
        answer .gte = (answer .gt || answer .eq) ∧ answer .lte = (answer .lt || answer .eq) ∧
        (found.isNaN = false → reference.isNaN = false →
          [answer .lt, answer .eq, answer .gt].count true = 1) := by
  have unordered := Value.compare?_eq_none_iff left right
  refine ⟨unordered, fun _ compared => Value.compare?_compares left right compared, ?_⟩
  intro path document resolved plain
  refine ⟨fun operator => (number.compare? bound).any operator.admits, ?_, ?_, ?_, ?_⟩
  · intro operator comparing
    exact ⟨exists_evaluate_eq_any_admits left right plain comparing resolved,
      Value.any_admits_iff left right operator⟩
  · rcases number.compare? bound with _ | _ | _ | _ <;> rfl
  · rcases number.compare? bound with _ | _ | _ | _ <;> rfl
  · intro isNumber isBound
    cases compared : number.compare? bound with
    | none => simp [isNumber, isBound, compared] at unordered
    | some order => cases order <;> rfl

/-- An integer that no double equals is above the double next to it. -/
theorem Condition.comparison_exact_between_doubles :
    ∃ condition, make "n" (.float ⟨0x4340000000000000⟩) .gt false = .ok condition ∧
      condition.evaluate (.map [("n", .int 9007199254740993)]) = .ok true := by
  have left : (Value.int 9007199254740993).numeral? = some (.whole 9007199254740993) := rfl
  have right : (Value.float ⟨0x4340000000000000⟩).numeral? = some (.real ⟨0x4340000000000000⟩) := rfl
  have power : (Value.float ⟨0x4340000000000000⟩).extent? = some (.ofInt 9007199254740992) := by decide +kernel
  obtain ⟨-, -, runs⟩ := comparison_exact left right
  obtain ⟨answer, each, -⟩ := runs ⟨"n", by decide⟩ (.map [("n", .int 9007199254740993)]) rfl (.inr rfl)
  obtain ⟨⟨condition, made, evaluated⟩, holds⟩ := each .gt (by decide)
  have above : answer .gt = true := by
    refine holds.2 ⟨rfl, by decide, ?_⟩
    rw [Operator.Relates, ← Value.toEReal_of_extent? power, Extent.toEReal_ofInt]
    exact EReal.coe_lt_coe_iff.2 (Int.cast_lt.2 (by decide))
  exact ⟨condition, made, above ▸ evaluated⟩

end Criteria
