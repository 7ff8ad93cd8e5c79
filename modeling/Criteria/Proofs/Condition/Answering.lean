import Criteria.Proofs.Condition.Anchoring
import Criteria.Proofs.Condition.Comparison

/-!
What a condition answers. The kinds of its reference and of what is found decide whether its operator applies;
where it does not, the condition fails, and the failure names its attribute, its operator and the kind that was
found. Everywhere else it answers whether its reference and what is found stand as its operator asks, turned
around by a negation. Equality and membership apply to everything.
-/
namespace Criteria

namespace Kind

def numeric : List Kind := [.boolean, .integer, .float]

end Kind

theorem Value.numeral?_eq_none_iff (value : Value) : value.numeral? = none ↔ value.kind ∉ Kind.numeric := by
  cases value <;> simp [numeral?, kind, Kind.numeric]

theorem Fields.has_iff {α : Type} (name : String) (fields : Fields α) :
    has name fields = true ↔ ∃ value, (name, value) ∈ fields := by
  unfold has
  induction fields with
  | nil => simp [get?]
  | cons entry rest ih =>
    obtain ⟨key, held⟩ := entry
    by_cases same : key = name
    · simp [get?, same]
    · simp [get?, same, Ne.symm same, ih]

namespace Operator

def ordering : List Operator := [.gt, .gte, .lt, .lte]

/-- An operator with a reference of one kind does not apply to what is found of another kind, because it would
have had to find something else. -/
inductive Misfits : Operator → (reference found : Kind) → Expectation → Prop
  | order {operator : Operator} {reference found : Kind} (orders : operator ∈ ordering)
      (noNumber : found ∉ Kind.numeric) : Misfits operator reference found .number
  | pattern {reference found : Kind} (noText : found ≠ .string) : Misfits .regex reference found .string
  | container {reference found : Kind} (noContainer : found ∈ .null :: Kind.numeric) :
      Misfits .contains reference found .container
  | text {reference : Kind} (noText : reference ≠ .string) : Misfits .contains reference .string .listOrMapping
  | mapping : Misfits .contains .list .mapping .listOrString

/-- What an operator asks of a value that it applies to. -/
def Holds : Operator → (reference found : Value) → Prop
  | .eq, reference, found => found.equals reference = true
  | .isIn, reference, found => ∃ items, reference = .list items ∧ ∃ item ∈ items, item.equals found = true
  | .contains, reference, found =>
    (∃ items, found = .list items ∧ ∃ item ∈ items, item.equals reference = true) ∨
      (∃ text part, found = .string text ∧ reference = .string part ∧ part.toList <:+: text.toList) ∨
        ∃ fields name, found = .map fields ∧ reference = .string name ∧ ∃ value, (name, value) ∈ fields
  | .regex, reference, found =>
    ∃ source expr text, reference = .string source ∧
      Pattern.Expr.ofChars? (Pattern.anchored source.toList) = some expr ∧
      found = .string text ∧ ∃ i j, i ≤ text.toList.length ∧ Pattern.Expr.Spans text.toList expr i j
  | operator, reference, found =>
    found.isNaN = false ∧ reference.isNaN = false ∧ operator.Relates found.toEReal reference.toEReal

theorem Misfits.unique {operator : Operator} {reference found : Kind} {expected other : Expectation}
    (misfits : operator.Misfits reference found expected) (again : operator.Misfits reference found other) :
    expected = other := by
  cases misfits <;> cases again <;> simp_all [ordering, Kind.numeric]

/-- An outcome is right for a reference and what was found: an answer if the operator applies, and then the right
one, or else what it would have had to find. -/
def Decides (operator : Operator) (reference found : Value) : Except Expectation Bool → Prop
  | .ok answer =>
    (∀ expected, ¬ operator.Misfits reference.kind found.kind expected) ∧
      (answer = true ↔ operator.Holds reference found)
  | .error expected => operator.Misfits reference.kind found.kind expected

variable {operator : Operator} {reference found : Value}

theorem holds_iff_of_ordering (orders : operator ∈ ordering) :
    operator.Holds reference found ↔
      found.isNaN = false ∧ reference.isNaN = false ∧ operator.Relates found.toEReal reference.toEReal := by
  cases operator <;> simp [ordering] at orders <;> rfl

theorem plain_of_ordering (orders : operator ∈ ordering) (accepted : operator.accepts reference.kind = true) :
    reference.kind = .integer ∨ reference.kind = .float := by
  obtain ⟨-, row⟩ := (accepts_iff _ _).1 accepted
  cases operator with
  | gt => exact row
  | gte => exact row
  | lt => exact row
  | lte => exact row
  | _ => simp [ordering] at orders

theorem not_misfits_of_ordering {reference found : Kind} {expected : Expectation} (orders : operator ∈ ordering)
    (number : found ∈ Kind.numeric) : ¬ operator.Misfits reference found expected := by
  intro misfits
  cases misfits with
  | order _ noNumber => exact noNumber number
  | _ => simp [ordering] at orders

/-- Equality and membership apply to everything. -/
theorem not_misfits_of_universal {reference found : Kind} {expected : Expectation}
    (universal : operator ∈ [eq, isIn]) : ¬ operator.Misfits reference found expected := by
  intro misfits
  cases misfits with
  | order orders =>
    revert operator
    decide
  | _ => simp at universal

theorem not_misfits_regex {reference : Kind} {expected : Expectation} :
    ¬ Operator.regex.Misfits reference .string expected := by
  intro misfits
  cases misfits with
  | order orders => simp [ordering] at orders
  | pattern noText => exact noText rfl

theorem not_misfits_contains {reference found : Kind} {expected : Expectation}
    (container : found ∉ .null :: Kind.numeric) (text : found = .string → reference = .string)
    (mapping : found = .mapping → reference ≠ .list) : ¬ Operator.contains.Misfits reference found expected := by
  intro misfits
  cases misfits with
  | order orders => simp [ordering] at orders
  | container noContainer => exact container noContainer
  | text noText => exact noText (text rfl)
  | mapping => exact mapping rfl rfl

theorem comparing_of_ordering (orders : operator ∈ ordering) : operator ∈ comparing :=
  List.mem_cons_of_mem _ orders

end Operator

namespace Test

variable {reference found : Value} {test : Test}

theorem exists_order_of_make {operator : Operator} (orders : operator ∈ Operator.ordering)
    (made : make operator reference = .ok test) :
    ∃ comparison bound, reference.numeral? = some bound ∧ test = .order comparison bound := by
  have compared (comparison : Comparison) (made : ofComparison operator comparison reference = .ok test) :
      ∃ comparison bound, reference.numeral? = some bound ∧ test = .order comparison bound := by
    unfold ofComparison at made
    split at made
    · rename_i bound numeric
      exact ⟨comparison, bound, numeric, (Except.ok.inj made).symm⟩
    · cases made
  cases operator with
  | gt => exact compared .greater made
  | gte => exact compared .atLeast made
  | lt => exact compared .less made
  | lte => exact compared .atMost made
  | eq => simp [Operator.ordering] at orders
  | isIn => simp [Operator.ordering] at orders
  | contains => simp [Operator.ordering] at orders
  | regex => simp [Operator.ordering] at orders

theorem decides_ordering {operator : Operator} (orders : operator ∈ Operator.ordering)
    (accepted : operator.accepts reference.kind = true) (made : make operator reference = .ok test) :
    operator.Decides reference found (test.answer found) := by
  obtain ⟨comparison, bound, right, rfl⟩ := exists_order_of_make orders made
  cases left : found.numeral? with
  | none =>
    have answered : (order comparison bound).answer found = .error .number := by simp only [answer, left]
    rw [answered]
    exact .order orders ((Value.numeral?_eq_none_iff found).1 left)
  | some number =>
    have plain := Operator.plain_of_ordering orders accepted
    rw [answer_eq_any_admits left right plain (Operator.comparing_of_ordering orders) made]
    have numeric : found.kind ∈ Kind.numeric := by
      by_contra other
      rw [← Value.numeral?_eq_none_iff, left] at other
      cases other
    refine ⟨fun expected => Operator.not_misfits_of_ordering orders numeric, ?_⟩
    rw [Operator.holds_iff_of_ordering orders]
    exact Value.any_admits_iff left right operator

theorem decides_contains : Operator.contains.Decides reference found (containsAnswer reference found) := by
  cases found with
  | null => exact .container (by simp [Value.kind])
  | bool b => exact .container (by simp [Value.kind, Kind.numeric])
  | int n => exact .container (by simp [Value.kind, Kind.numeric])
  | float x => exact .container (by simp [Value.kind, Kind.numeric])
  | list items =>
    have applies : ∀ expected, ¬ Operator.contains.Misfits reference.kind .list expected := by
      intro expected
      apply Operator.not_misfits_contains <;> simp [Kind.numeric]
    refine ⟨applies, ?_⟩
    simp [Operator.Holds]
  | string text =>
    cases reference with
    | string part =>
      have applies : ∀ expected, ¬ Operator.contains.Misfits .string .string expected := by
        intro expected
        apply Operator.not_misfits_contains <;> simp [Kind.numeric]
      refine ⟨applies, ?_⟩
      simp [Operator.Holds, Text.occurs_iff]
    | _ => exact .text (by simp [Value.kind])
  | map fields =>
    have applies {other : Kind} (noList : other ≠ .list) :
        ∀ expected, ¬ Operator.contains.Misfits other .mapping expected := by
      intro expected
      apply Operator.not_misfits_contains <;> simp [Kind.numeric, noList]
    cases reference with
    | string name =>
      refine ⟨applies (by simp [Value.kind]), ?_⟩
      simp [Operator.Holds, Fields.has_iff]
    | list items => exact .mapping
    | _ =>
      refine ⟨applies (by simp [Value.kind]), ?_⟩
      simp [Operator.Holds]

theorem decides_matching (pattern : Pattern) :
    Operator.regex.Decides (.string pattern.source) found ((matching pattern).answer found) := by
  cases found with
  | string text =>
    refine ⟨fun expected => Operator.not_misfits_regex, ?_⟩
    rw [Pattern.occursIn, Pattern.Expr.matchesSomewhere_iff (Pattern.Expr.bounded_of_ofChars? pattern.reads)]
    constructor
    · intro spans
      exact ⟨pattern.source, pattern.expr, text, rfl, pattern.reads, rfl, spans⟩
    · intro holds
      obtain ⟨source, expr, other, same, reads, sameText, spans⟩ := holds
      obtain rfl := Value.string.inj same
      obtain rfl := Value.string.inj sameText
      obtain rfl := Option.some.inj (pattern.reads.symm.trans reads)
      exact spans
  | _ => exact .pattern (by simp [Value.kind])

end Test

namespace Condition

variable (condition : Condition)

/-- The test of a condition decides what its operator asks of its reference and of any value. -/
theorem test_decides (found : Value) :
    condition.operator.Decides condition.reference found (condition.test.answer found) := by
  have accepted := condition.accepted
  have made := condition.made
  cases operator : condition.operator with
  | gt | gte | lt | lte =>
    rw [operator] at accepted made
    exact Test.decides_ordering (by decide) accepted made
  | eq =>
    rw [operator] at made
    obtain same : Test.equal condition.reference = condition.test := Except.ok.inj made
    rw [← same]
    exact ⟨fun expected => Operator.not_misfits_of_universal (by decide), Iff.rfl⟩
  | isIn =>
    rw [operator] at accepted made
    obtain ⟨items, reference⟩ := (Value.kind_eq_list_iff _).1 ((Operator.accepts_iff _ _).1 accepted).2
    rw [reference] at made
    obtain same : Test.member items = condition.test := Except.ok.inj made
    rw [← same, reference]
    refine ⟨fun expected => Operator.not_misfits_of_universal (by decide), ?_⟩
    simp [Operator.Holds]
  | contains =>
    rw [operator] at made
    obtain same : Test.contains condition.reference = condition.test := Except.ok.inj made
    rw [← same]
    exact Test.decides_contains
  | regex =>
    obtain ⟨pattern, reference, test⟩ := exists_pattern_of_regex operator
    rw [test, reference]
    exact Test.decides_matching pattern

theorem evaluate_eq_error_iff (document : Value) (mismatch : Mismatch) :
    condition.evaluate document = .error mismatch ↔
      ∃ expected,
        condition.operator.Misfits condition.reference.kind (condition.path.resolve document).kind expected ∧
        mismatch = ⟨condition.subject, condition.operator, expected, (condition.path.resolve document).kind⟩ := by
  have decided := condition.test_decides (condition.path.resolve document)
  unfold evaluate
  dsimp only
  cases answered : condition.test.answer (condition.path.resolve document) with
  | ok answer =>
    rw [answered] at decided
    apply iff_of_false nofun
    intro fails
    obtain ⟨expected, misfits, -⟩ := fails
    exact decided.1 expected misfits
  | error expected =>
    rw [answered] at decided
    constructor
    · intro failed
      exact ⟨expected, decided, (Except.error.inj failed).symm⟩
    · intro fails
      obtain ⟨other, misfits, rfl⟩ := fails
      rw [Operator.Misfits.unique decided misfits]

theorem exists_evaluate_eq_ok (document : Value)
    (applies : ∀ expected,
      ¬ condition.operator.Misfits condition.reference.kind (condition.path.resolve document).kind expected) :
    ∃ answer, condition.evaluate document = .ok (condition.negated ^^ answer) ∧
      (answer = true ↔ condition.operator.Holds condition.reference (condition.path.resolve document)) := by
  have decided := condition.test_decides (condition.path.resolve document)
  unfold evaluate
  dsimp only
  cases answered : condition.test.answer (condition.path.resolve document) with
  | ok answer =>
    rw [answered] at decided
    refine ⟨answer, ?_, decided.2⟩
    rw [Bool.xor_comm, Bool.bne_eq_xor]
  | error expected =>
    rw [answered] at decided
    exact absurd decided (applies expected)

/-- A condition fails exactly if its operator does not apply, with and without a negation alike, and the failure
names its attribute, its operator and the kind that was found. Otherwise it answers whether the operator holds,
turned around if it is negated. Equality and membership always answer. -/
theorem outcome_exact (document : Value) :
    let found := condition.path.resolve document
    (∀ mismatch, condition.evaluate document = .error mismatch ↔
      ∃ expected, condition.operator.Misfits condition.reference.kind found.kind expected ∧
        mismatch = ⟨condition.subject, condition.operator, expected, found.kind⟩) ∧
    (∀ mismatch, condition.negate.evaluate document = .error mismatch ↔
      condition.evaluate document = .error mismatch) ∧
    ((∀ expected, ¬ condition.operator.Misfits condition.reference.kind found.kind expected) →
      ∃ answer, condition.evaluate document = .ok (condition.negated ^^ answer) ∧
        (answer = true ↔ condition.operator.Holds condition.reference found)) ∧
    (condition.operator ∈ [.eq, .isIn] → ∃ answer, condition.evaluate document = .ok answer) := by
  refine ⟨condition.evaluate_eq_error_iff document, ?_, condition.exists_evaluate_eq_ok document, ?_⟩
  · intro mismatch
    rw [evaluate_eq_error_iff, evaluate_eq_error_iff]
    rfl
  · intro universal
    obtain ⟨answer, evaluated, -⟩ :=
      condition.exists_evaluate_eq_ok document (fun expected => Operator.not_misfits_of_universal universal)
    exact ⟨_, evaluated⟩

end Condition

end Criteria
