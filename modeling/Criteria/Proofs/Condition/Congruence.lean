import Criteria.Condition.Basic
import Criteria.Proofs.Value.Equality

/-!
Equal conditions on equal documents. A path leads to equal values in equal documents, a test answers
the same of equal values, and equal conditions give the same answer or fail with the same demand; only the
kind that a failure names as found may differ, as between an integer and a float.
-/
namespace Criteria

namespace Path

variable {lefts rights : Fields Value}

theorem fieldOrNull_congr (name : String)
    (each : Value.EqualFields lefts rights) :
    (fieldOrNull name lefts).equals (fieldOrNull name rights) = true := by
  unfold fieldOrNull
  induction each with
  | nil => rfl
  | @cons left right lefts rights head _ ih =>
    by_cases named : left.1 = name
    · have otherNamed : right.1 = name := head.1 ▸ named
      simpa [Fields.get?, named, otherNamed] using head.2
    · have otherNamed : right.1 ≠ name := head.1 ▸ named
      simpa [Fields.get?, named, otherNamed] using ih

theorem has_congr (name : String)
    (each : Value.EqualFields lefts rights) :
    Fields.has name lefts = Fields.has name rights := by
  unfold Fields.has
  induction each with
  | nil => rfl
  | @cons left right lefts rights head _ ih =>
    by_cases named : left.1 = name
    · have otherNamed : right.1 = name := head.1 ▸ named
      simp [Fields.get?, named, otherNamed]
    · have otherNamed : right.1 ≠ name := head.1 ▸ named
      simpa [Fields.get?, named, otherNamed] using ih

theorem step_of_extent {name : String} {value : Value} {point : Extent}
    (numeric : value.extent? = some point) : step name value = none := by
  rcases Value.numeric_cases numeric with ⟨_, rfl⟩ | ⟨_, rfl⟩ | ⟨_, rfl⟩ <;> rfl

theorem broadcast_of_extent {name : String} {value : Value} {rest : List Value} {point : Extent}
    (numeric : value.extent? = some point) : broadcast name (value :: rest) = none := by
  rcases Value.numeric_cases numeric with ⟨_, rfl⟩ | ⟨_, rfl⟩ | ⟨_, rfl⟩ <;> rfl

theorem broadcast_congr (name : String) {lefts rights : List Value} (each : Value.EqualItems lefts rights) :
    (broadcast name lefts = none ∧ broadcast name rights = none) ∨
      ∃ left right, broadcast name lefts = some left ∧ broadcast name rights = some right ∧
        Value.EqualItems left right := by
  induction each with
  | nil => exact .inr ⟨[], [], rfl, rfl, .nil⟩
  | @cons left right lefts rights head _ ih =>
    cases Value.matching_of_equals head with
    | null => exact .inl ⟨rfl, rfl⟩
    | string text => exact .inl ⟨rfl, rfl⟩
    | list each => exact .inl ⟨rfl, rfl⟩
    | map fields =>
      rcases ih with ⟨leftNone, rightNone⟩ | ⟨left, right, leftSome, rightSome, others⟩
      · exact .inl ⟨by simp [broadcast, leftNone], by simp [broadcast, rightNone]⟩
      · refine .inr ⟨_, _, by rw [broadcast, leftSome]; rfl, by rw [broadcast, rightSome]; rfl, ?_⟩
        exact .cons (fieldOrNull_congr name fields) others
    | number point leftPoint rightPoint =>
      exact .inl ⟨broadcast_of_extent leftPoint, broadcast_of_extent rightPoint⟩

theorem step_congr (name : String) {left right : Value} (same : left.equals right = true) :
    (step name left = none ∧ step name right = none) ∨
      ∃ next other, step name left = some next ∧ step name right = some other ∧
        next.equals other = true := by
  cases Value.matching_of_equals same with
  | null => exact .inl ⟨rfl, rfl⟩
  | string text => exact .inl ⟨rfl, rfl⟩
  | list each =>
    rcases broadcast_congr name each with ⟨leftNone, rightNone⟩ | ⟨left, right, leftSome, rightSome, others⟩
    · exact .inl ⟨by simp [step, leftNone], by simp [step, rightNone]⟩
    · refine .inr ⟨.list left, .list right, by simp [step, leftSome], by simp [step, rightSome], ?_⟩
      exact (Value.equalItems_iff left right).2 others
  | map fields => exact .inr ⟨_, _, rfl, rfl, fieldOrNull_congr name fields⟩
  | number point leftPoint rightPoint =>
    exact .inl ⟨step_of_extent leftPoint, step_of_extent rightPoint⟩

/-- A walk through equal nodes ends at equal nodes. -/
theorem walk_congr (names : List String) {left right : Value} (same : left.equals right = true) :
    (walk names left).equals (walk names right) = true := by
  induction names generalizing left right with
  | nil => exact same
  | cons name rest ih =>
    unfold walk
    rcases step_congr name same with ⟨leftNone, rightNone⟩ | ⟨next, other, leftSome, rightSome, nodes⟩
    · rw [leftNone, rightNone]
      rfl
    · rw [leftSome, rightSome]
      exact ih nodes

end Path

namespace Test

theorem any_equals_congr {lefts rights : List Value} {found found' : Value}
    (each : Value.EqualItems lefts rights) (same : found.equals found' = true) :
    (lefts.any fun item => item.equals found) = rights.any fun item => item.equals found' := by
  induction each with
  | nil => rfl
  | cons head _ ih => rw [List.any_cons, List.any_cons, Value.equals_congr head same, ih]

theorem compare?_congr {left left' right right' : Numeral} (lefts : left.extent? = left'.extent?)
    (rights : right.extent? = right'.extent?) : left.compare? right = left'.compare? right' := by
  rw [Numeral.compare?_eq, Numeral.compare?_eq, lefts, rights]

theorem containsAnswer_of_extent {reference found : Value} {point : Extent}
    (numeric : found.extent? = some point) : containsAnswer reference found = .error .container := by
  rcases Value.numeric_cases numeric with ⟨_, rfl⟩ | ⟨_, rfl⟩ | ⟨_, rfl⟩ <;> rfl

theorem containsAnswer_string_of_extent {reference : Value} {text : String} {point : Extent}
    (numeric : reference.extent? = some point) :
    containsAnswer reference (.string text) = .error .listOrMapping := by
  rcases Value.numeric_cases numeric with ⟨_, rfl⟩ | ⟨_, rfl⟩ | ⟨_, rfl⟩ <;> rfl

theorem containsAnswer_map_of_extent {reference : Value} {fields : Fields Value} {point : Extent}
    (numeric : reference.extent? = some point) : containsAnswer reference (.map fields) = .ok false := by
  rcases Value.numeric_cases numeric with ⟨_, rfl⟩ | ⟨_, rfl⟩ | ⟨_, rfl⟩ <;> rfl

theorem containsAnswer_congr {reference reference' found found' : Value}
    (references : reference.equals reference' = true) (same : found.equals found' = true) :
    containsAnswer reference found = containsAnswer reference' found' := by
  cases Value.matching_of_equals same with
  | null => rfl
  | string text =>
    cases Value.matching_of_equals references with
    | null => rfl
    | string part => rfl
    | list each => rfl
    | map each => rfl
    | number point left right =>
      rw [containsAnswer_string_of_extent left, containsAnswer_string_of_extent right]
  | list each => exact congrArg Except.ok (any_equals_congr each references)
  | map each =>
    cases Value.matching_of_equals references with
    | null => rfl
    | string name => exact congrArg Except.ok (Path.has_congr name each)
    | list each => rfl
    | map each => rfl
    | number point left right => rw [containsAnswer_map_of_extent left, containsAnswer_map_of_extent right]
  | number point left right => rw [containsAnswer_of_extent left, containsAnswer_of_extent right]

/-- Comparisons see of a value only whether it is numeric and which point it denotes. -/
theorem numeral?_congr {found found' : Value} (same : found.equals found' = true) :
    (found.numeral? = none ∧ found'.numeral? = none) ∨
      ∃ number number', found.numeral? = some number ∧ found'.numeral? = some number' ∧
        number.extent? = number'.extent? := by
  cases Value.matching_of_equals same with
  | null => exact .inl ⟨rfl, rfl⟩
  | string text => exact .inl ⟨rfl, rfl⟩
  | list each => exact .inl ⟨rfl, rfl⟩
  | map each => exact .inl ⟨rfl, rfl⟩
  | number point left right =>
    obtain ⟨number, numeral, denotes⟩ := Option.bind_eq_some_iff.1 left
    obtain ⟨number', numeral', denotes'⟩ := Option.bind_eq_some_iff.1 right
    exact .inr ⟨number, number', numeral, numeral', denotes.trans denotes'.symm⟩

theorem order_congr {operator : Operator} {comparison : Comparison} {reference reference' found found' : Value}
    {test test' : Test} (references : reference.equals reference' = true)
    (same : found.equals found' = true) (made : ofComparison operator comparison reference = .ok test)
    (made' : ofComparison operator comparison reference' = .ok test') :
    test.answer found = test'.answer found' := by
  unfold ofComparison at made made'
  rcases numeral?_congr references with ⟨none, -⟩ | ⟨bound, bound', some, some', bounds⟩
  · simp [none] at made
  · rw [some] at made
    rw [some'] at made'
    obtain rfl := Except.ok.inj made
    obtain rfl := Except.ok.inj made'
    rcases numeral?_congr same with ⟨none, none'⟩ | ⟨number, number', some, some', numbers⟩
    · simp only [answer, none, none']
    · simp only [answer, some, some', compare?_congr numbers bounds]

theorem make_isIn_of_extent {reference : Value} {point : Extent} (numeric : reference.extent? = some point) :
    make .isIn reference = .error (.incompatibleOperator .isIn reference.kind) := by
  rcases Value.numeric_cases numeric with ⟨_, rfl⟩ | ⟨_, rfl⟩ | ⟨_, rfl⟩ <;> rfl

theorem make_regex_of_extent {reference : Value} {point : Extent} (numeric : reference.extent? = some point) :
    make .regex reference = .error (.incompatibleOperator .regex reference.kind) := by
  rcases Value.numeric_cases numeric with ⟨_, rfl⟩ | ⟨_, rfl⟩ | ⟨_, rfl⟩ <;> rfl

theorem matching_of_extent {pattern : Pattern} {found : Value} {point : Extent}
    (numeric : found.extent? = some point) : (matching pattern).answer found = .error .string := by
  rcases Value.numeric_cases numeric with ⟨_, rfl⟩ | ⟨_, rfl⟩ | ⟨_, rfl⟩ <;> rfl

theorem matching_of_make_regex {source : String} {test : Test} (made : make .regex (.string source) = .ok test) :
    ∃ pattern, test = .matching pattern := by
  simp only [make] at made
  split at made
  · exact ⟨_, (Except.ok.inj made).symm⟩
  · cases made

theorem answer_congr {operator : Operator} {reference reference' found found' : Value} {test test' : Test}
    (references : reference.equals reference' = true) (same : found.equals found' = true)
    (made : make operator reference = .ok test) (made' : make operator reference' = .ok test') :
    test.answer found = test'.answer found' := by
  cases operator with
  | eq =>
    obtain rfl := Except.ok.inj made
    obtain rfl := Except.ok.inj made'
    exact congrArg Except.ok (Value.equals_congr same references)
  | gt => exact order_congr references same made made'
  | gte => exact order_congr references same made made'
  | lt => exact order_congr references same made made'
  | lte => exact order_congr references same made made'
  | isIn =>
    cases Value.matching_of_equals references with
    | null => simp [make] at made
    | string text => simp [make] at made
    | list each =>
      obtain rfl := Except.ok.inj made
      obtain rfl := Except.ok.inj made'
      exact congrArg Except.ok (any_equals_congr each same)
    | map each => simp [make] at made
    | number point left right =>
      rw [make_isIn_of_extent left] at made
      cases made
  | contains =>
    obtain rfl := Except.ok.inj made
    obtain rfl := Except.ok.inj made'
    exact containsAnswer_congr references same
  | regex =>
    cases Value.matching_of_equals references with
    | null => simp [make] at made
    | string source =>
      obtain rfl : test = test' := Except.ok.inj (made.symm.trans made')
      obtain ⟨pattern, rfl⟩ := matching_of_make_regex made
      cases Value.matching_of_equals same with
      | null => rfl
      | string text => rfl
      | list each => rfl
      | map each => rfl
      | number point left right => rw [matching_of_extent left, matching_of_extent right]
    | list each => simp [make] at made
    | map each => simp [make] at made
    | number point left right =>
      rw [make_regex_of_extent left] at made
      cases made

end Test

@[simp] theorem mapError_ok {ε ε' α : Type} (change : ε → ε') (value : α) :
    (Except.ok value).mapError change = .ok value := rfl

@[simp] theorem mapError_error {ε ε' α : Type} (change : ε → ε') (error : ε) :
    (Except.error error : Except ε α).mapError change = .error (change error) := rfl

def Mismatch.demand (mismatch : Mismatch) : String × Operator × Expectation :=
  (mismatch.subject, mismatch.operator, mismatch.expected)

namespace Condition

theorem equals_iff (left right : Condition) :
    left.equals right = true ↔ left.subject = right.subject ∧ left.operator = right.operator ∧
      left.reference.equals right.reference = true ∧ left.negated = right.negated := by
  simp [equals, and_assoc]

/-- Equal conditions give the same answer on equal documents, or fail with the same demand. -/
theorem evaluate_congr {left right : Condition} {document document' : Value}
    (same : left.equals right = true) (documents : document.equals document' = true) :
    (left.evaluate document).mapError Mismatch.demand = (right.evaluate document').mapError Mismatch.demand := by
  obtain ⟨subjects, operators, references, negations⟩ := (equals_iff left right).1 same
  have found : (left.path.resolve document).equals (right.path.resolve document') = true := by
    rw [Path.eq_of_text subjects]
    exact Path.walk_congr right.path.segments documents
  have made' : Test.make left.operator right.reference = .ok right.test := operators ▸ right.made
  have answers := Test.answer_congr references found left.made made'
  simp only [evaluate, answers]
  cases right.test.answer (right.path.resolve document') with
  | ok answer => simp [negations]
  | error expected => simp [Mismatch.demand, subjects, operators]

end Condition

end Criteria
