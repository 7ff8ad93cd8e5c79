import Criteria.Proofs.Condition.Building

/-!
When a condition can be made at all, and which objects describe one. The table of operators leaves only
tests that can be made, except that a pattern still has to be read; so the fields of an object are accepted
exactly if they give an attribute, a reference of scalars, an operator that takes it, and a truth value.
-/
namespace Criteria

/-- The text can be read as a pattern, which is done behind an anchor and inside a group. -/
def Pattern.Reads (source : String) : Prop :=
  ∃ expr, Expr.ofChars? (anchored source.toList) = some expr

theorem Pattern.ofText?_isSome_iff (source : String) : (ofText? source).isSome = true ↔ Reads source := by
  unfold ofText? Reads
  split
  · rename_i expr found
    simp [found]
  · rename_i absent
    simp [absent]

/-- The table of operators, row by row: equality takes every reference, an order takes a number, membership
a list, containment anything but null, and a pattern is a string. -/
theorem Operator.accepts_iff (operator : Operator) (kind : Kind) :
    operator.accepts kind = true ↔ kind ≠ .mapping ∧
      match operator with
      | .eq => True
      | .gt | .gte | .lt | .lte => kind = .integer ∨ kind = .float
      | .isIn => kind = .list
      | .contains => kind ≠ .null
      | .regex => kind = .string := by
  cases operator <;> cases kind <;> decide

namespace Value

theorem kind_eq_list_iff (value : Value) : value.kind = .list ↔ ∃ items, value = .list items := by
  cases value <;> simp [kind]

theorem kind_eq_string_iff (value : Value) : value.kind = .string ↔ ∃ text, value = .string text := by
  cases value <;> simp [kind]

theorem exists_numeral?_of_kind {value : Value} (numeric : value.kind = .integer ∨ value.kind = .float) :
    ∃ number, value.numeral? = some number := by
  cases value with
  | int n => exact ⟨_, rfl⟩
  | float x => exact ⟨_, rfl⟩
  | null => simp [kind] at numeric
  | bool b => simp [kind] at numeric
  | string text => simp [kind] at numeric
  | list items => simp [kind] at numeric
  | map fields => simp [kind] at numeric

theorem ofNumber_cases (n : Json.Number) :
    (∃ k, ofNumber n = .int k) ∨ ∃ x, ofNumber n = .float x := by
  cases n with
  | float x finite => exact .inr ⟨x, rfl⟩
  | int n inRange =>
    rw [ofNumber]
    split
    · exact .inl ⟨_, rfl⟩
    · exact .inr ⟨_, rfl⟩

theorem unsupportedPart?_eq_none_iff (value : Value) :
    value.unsupportedPart? = none ↔
      value.isScalar = true ∨ ∃ items, value = .list items ∧ ∀ item ∈ items, item.isScalar = true := by
  cases value <;> simp [unsupportedPart?, isScalar]

end Value

namespace Test

theorem exists_ofComparison {operator : Operator} {comparison : Comparison} {reference : Value}
    (numeric : reference.kind = .integer ∨ reference.kind = .float) :
    ∃ test, ofComparison operator comparison reference = .ok test := by
  obtain ⟨bound, found⟩ := Value.exists_numeral?_of_kind numeric
  exact ⟨.order comparison bound, by simp only [ofComparison, found]⟩

theorem exists_make_regex_iff (source : String) :
    (∃ test, make .regex (.string source) = .ok test) ↔ Pattern.Reads source := by
  rw [← Pattern.ofText?_isSome_iff, make]
  cases Pattern.ofText? source <;> simp

theorem exists_make_iff {operator : Operator} {reference : Value}
    (accepted : operator.accepts reference.kind = true) :
    (∃ test, make operator reference = .ok test) ↔
      (operator = .regex → ∃ source, reference = .string source ∧ Pattern.Reads source) := by
  obtain ⟨-, row⟩ := (Operator.accepts_iff _ _).1 accepted
  cases operator with
  | eq => exact iff_of_true ⟨_, rfl⟩ nofun
  | contains => exact iff_of_true ⟨_, rfl⟩ nofun
  | gt => exact iff_of_true (exists_ofComparison row) nofun
  | gte => exact iff_of_true (exists_ofComparison row) nofun
  | lt => exact iff_of_true (exists_ofComparison row) nofun
  | lte => exact iff_of_true (exists_ofComparison row) nofun
  | isIn =>
    obtain ⟨items, rfl⟩ := (Value.kind_eq_list_iff _).1 row
    exact iff_of_true ⟨_, rfl⟩ nofun
  | regex =>
    obtain ⟨source, rfl⟩ := (Value.kind_eq_string_iff _).1 row
    simp [exists_make_regex_iff]

end Test

namespace Json

def IsScalar (json : Json) : Prop := json.shape ≠ .list ∧ json.shape ≠ .mapping

inductive IsReference : Json → Prop
  | scalar {json : Json} (plain : json.IsScalar) : IsReference json
  | list {items : List Json} (plain : ∀ item ∈ items, item.IsScalar) : IsReference (.array items)

theorem isScalar_ofJson_iff (json : Json) : (Value.ofJson json).isScalar = true ↔ json.IsScalar := by
  cases json with
  | number n =>
    rw [Value.ofJson]
    rcases Value.ofNumber_cases n with ⟨k, same⟩ | ⟨x, same⟩ <;> simp [same, Value.isScalar, IsScalar, shape]
  | null => simp [Value.ofJson, Value.isScalar, IsScalar, shape]
  | bool b => simp [Value.ofJson, Value.isScalar, IsScalar, shape]
  | string s => simp [Value.ofJson, Value.isScalar, IsScalar, shape]
  | array items => simp [Value.ofJson, Value.isScalar, IsScalar, shape]
  | object fields => simp [Value.ofJson, Value.isScalar, IsScalar, shape]

theorem isReference_iff (json : Json) :
    json.IsReference ↔ json.IsScalar ∨ ∃ items, json = .array items ∧ ∀ item ∈ items, item.IsScalar := by
  constructor
  · intro reference
    cases reference with
    | scalar plain => exact .inl plain
    | list plain => exact .inr ⟨_, rfl, plain⟩
  · intro either
    rcases either with plain | ⟨items, rfl, plain⟩
    · exact .scalar plain
    · exact .list plain

theorem unsupportedPart?_ofJson_eq_none_iff (json : Json) :
    (Value.ofJson json).unsupportedPart? = none ↔ json.IsReference := by
  rw [Value.unsupportedPart?_eq_none_iff, isReference_iff, isScalar_ofJson_iff]
  refine or_congr_right ?_
  cases json with
  | array items => simp [Value.ofJson, Value.ofItems_eq_map, isScalar_ofJson_iff]
  | number n =>
    rw [Value.ofJson]
    rcases Value.ofNumber_cases n with ⟨k, same⟩ | ⟨x, same⟩ <;> simp [same]
  | null => simp [Value.ofJson]
  | bool b => simp [Value.ofJson]
  | string s => simp [Value.ofJson]
  | object fields => simp [Value.ofJson]

end Json

namespace Condition

/-- A condition can be made exactly if all four checks pass. -/
theorem exists_make_iff (subject : String) (reference : Value) (operator : Operator) (negated : Bool) :
    (∃ condition, make subject reference operator negated = .ok condition) ↔
      subject ≠ "" ∧ reference.unsupportedPart? = none ∧ operator.accepts reference.kind = true ∧
        (operator = .regex → ∃ source, reference = .string source ∧ Pattern.Reads source) := by
  constructor
  · intro makeable
    obtain ⟨condition, made⟩ := makeable
    obtain ⟨rfl, rfl, rfl, rfl⟩ := (make_eq_ok_iff _ _ _ _ _).1 made
    exact ⟨condition.path.nonempty, condition.supported, condition.accepted,
      (Test.exists_make_iff condition.accepted).1 ⟨_, condition.made⟩⟩
  · intro passed
    obtain ⟨nonempty, supported, accepted, reads⟩ := passed
    obtain ⟨test, made⟩ := (Test.exists_make_iff accepted).2 reads
    refine ⟨⟨⟨subject, nonempty⟩, operator, reference, negated, test, supported, accepted, made⟩, ?_⟩
    exact (make_eq_ok_iff _ _ _ _ _).2 ⟨rfl, rfl, rfl, rfl⟩

theorem exists_make_of_accepted (path : Path) {reference : Value} {operator : Operator}
    (supported : reference.unsupportedPart? = none) (accepted : operator.accepts reference.kind = true)
    (noPattern : operator ≠ .regex) (negated : Bool) :
    ∃ condition : Condition, make path.text reference operator negated = .ok condition ∧ condition.path = path ∧
      condition.reference = reference ∧ condition.operator = operator ∧ condition.negated = negated := by
  have reads : operator = .regex → ∃ source, reference = .string source ∧ Pattern.Reads source :=
    fun pattern => absurd pattern noPattern
  obtain ⟨condition, made⟩ := (exists_make_iff _ _ _ negated).2 ⟨path.nonempty, supported, accepted, reads⟩
  obtain ⟨subject, rest⟩ := (make_eq_ok_iff _ _ _ _ _).1 made
  exact ⟨condition, made, Path.eq_of_text subject, rest⟩

structure Description (fields : Fields Json) : Prop where
  keys : ∀ field ∈ fields, field.1 ∈ allowedKeys
  subject : ∃ subject, Fields.get? "attr" fields = some (.string subject) ∧ subject ≠ ""
  comparison : ∃ (value : Json) (operator : Operator), Fields.get? "value" fields = some value ∧ value.IsReference ∧
    (Fields.get? "op" fields = some (.string operator.name) ∨
      Fields.get? "op" fields = none ∧ operator = .eq) ∧
    operator.accepts (Value.ofJson value).kind = true ∧
    (operator = .regex → ∃ source, value = .string source ∧ Pattern.Reads source)
  negation : Fields.get? "negate" fields = none ∨
    ∃ negated, Fields.get? "negate" fields = some (.bool negated)

theorem ofJson_eq_string_iff (json : Json) (text : String) :
    Value.ofJson json = .string text ↔ json = .string text := by
  cases json with
  | number n =>
    rw [Value.ofJson]
    rcases Value.ofNumber_cases n with ⟨k, same⟩ | ⟨x, same⟩ <;> simp [same]
  | null => simp [Value.ofJson]
  | bool b => simp [Value.ofJson]
  | string s => simp [Value.ofJson]
  | array items => simp [Value.ofJson]
  | object fields => simp [Value.ofJson]

/-- The fields of an object describe some condition exactly if they are such a description. -/
theorem exists_describedBy_iff (fields : Fields Json) :
    (∃ condition : Condition, condition.DescribedBy fields) ↔ Description fields := by
  constructor
  · intro described
    obtain ⟨condition, describes⟩ := described
    obtain ⟨value, present, reference⟩ := describes.value
    have made := (make_eq_ok_iff _ _ _ _ condition).2 ⟨rfl, reference, rfl, rfl⟩
    obtain ⟨nonempty, supported, accepted, reads⟩ := (exists_make_iff _ _ _ _).1 ⟨condition, made⟩
    simp only [ofJson_eq_string_iff] at reads
    refine ⟨describes.keys, ⟨_, describes.subject, nonempty⟩, ⟨value, condition.operator, present, ?_,
      describes.operator, accepted, reads⟩, ?_⟩
    · exact (Json.unsupportedPart?_ofJson_eq_none_iff value).1 supported
    · rcases describes.negation with given | absent
      · exact .inr ⟨_, given⟩
      · exact .inl absent.1
  · intro description
    obtain ⟨keys, ⟨subject, named, nonempty⟩, comparison, negation⟩ := description
    obtain ⟨value, operator, present, plain, compared, accepted, reads⟩ := comparison
    have supported := (Json.unsupportedPart?_ofJson_eq_none_iff value).2 plain
    simp only [← ofJson_eq_string_iff] at reads
    have negated : ∃ negated, Fields.get? "negate" fields = some (.bool negated) ∨
        Fields.get? "negate" fields = none ∧ negated = false := by
      rcases negation with absent | ⟨negated, given⟩
      · exact ⟨false, .inr ⟨absent, rfl⟩⟩
      · exact ⟨negated, .inl given⟩
    obtain ⟨negated, negation⟩ := negated
    obtain ⟨condition, made⟩ :=
      (exists_make_iff subject (.ofJson value) operator negated).2 ⟨nonempty, supported, accepted, reads⟩
    obtain ⟨rfl, reference, rfl, rfl⟩ := (make_eq_ok_iff _ _ _ _ _).1 made
    exact ⟨condition, keys, named, ⟨value, present, reference⟩, compared, negation⟩

end Condition

end Criteria
