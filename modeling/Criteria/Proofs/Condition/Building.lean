import Criteria.Proofs.Value.Interchange
import Criteria.RuleSet.Description

/-!
What the fields of an object must say for a condition to be built from them, and what the fields of a
description say. A condition is determined by its attribute, its reference, its operator and its negation,
and describing it and building it again changes its reference at most, to the finite part.
-/
namespace Criteria

theorem Path.ofText?_eq_some_iff (text : String) (path : Path) :
    ofText? text = some path ↔ path.text = text := by
  unfold ofText?
  split
  · rw [Option.some.injEq]
    exact ⟨fun same => same ▸ rfl, fun same => by cases path; cases same; rfl⟩
  · rename_i empty
    have nonempty := path.nonempty
    simp only [reduceCtorEq, false_iff]
    exact fun same => empty (same ▸ nonempty)

theorem Operator.ofName?_eq_some_iff (word : String) (operator : Operator) :
    ofName? word = some operator ↔ operator.name = word := by
  constructor
  · intro named
    simpa using List.find?_some named
  · rintro rfl
    exact ofName?_name operator

theorem Operator.name_injective {left right : Operator} (same : left.name = right.name) : left = right :=
  Option.some.inj ((ofName?_name left).symm.trans (same ▸ ofName?_name right))

namespace Condition

/-- A condition is made from its attribute, its reference, its operator and its negation, and from nothing
else. -/
theorem make_eq_ok_iff (subject : String) (reference : Value) (operator : Operator) (negated : Bool)
    (condition : Condition) :
    make subject reference operator negated = .ok condition ↔
      condition.subject = subject ∧ condition.reference = reference ∧ condition.operator = operator ∧
        condition.negated = negated := by
  -- The checks are gone through in their order, once as passed and once as kept by the condition.
  constructor
  · intro made
    unfold make at made
    split at made
    · cases made
    · split at made
      · split at made
        · cases made
        · rename_i path parsed
          split at made
          · cases made
          · cases made
            exact ⟨(Path.ofText?_eq_some_iff _ _).1 parsed, rfl, rfl, rfl⟩
      · cases made
  · rintro ⟨rfl, rfl, rfl, rfl⟩
    have parsed := (Path.ofText?_eq_some_iff condition.subject condition.path).2 rfl
    unfold make
    split
    · rename_i kind unsupported
      rw [condition.supported] at unsupported
      cases unsupported
    · rw [dif_pos condition.accepted, parsed]
      dsimp only
      split
      · rename_i error failed
        rw [condition.made] at failed
        cases failed
      · rename_i test made
        rw [condition.made] at made
        cases made
        rfl

theorem describedAttribute_eq_ok_iff (fields : Fields Json) (subject : String) :
    describedAttribute fields = .ok subject ↔ Fields.get? "attr" fields = some (.string subject) := by
  unfold describedAttribute
  split <;> simp_all

theorem describedOperator_eq_ok_iff (fields : Fields Json) (operator : Operator) :
    describedOperator fields = .ok operator ↔
      Fields.get? "op" fields = some (.string operator.name) ∨
        Fields.get? "op" fields = none ∧ operator = .eq := by
  unfold describedOperator
  split
  · rename_i absent
    simp [absent, eq_comm]
  · rename_i word present
    have named := Operator.ofName?_eq_some_iff word operator
    rw [present]
    cases known : Operator.ofName? word <;> simp_all [eq_comm]
  · rename_i other notString present
    simp only [present, reduceCtorEq, Option.some.injEq, false_and, or_false, false_iff]
    exact notString operator.name

theorem describedNegation_eq_ok_iff (fields : Fields Json) (negated : Bool) :
    describedNegation fields = .ok negated ↔
      Fields.get? "negate" fields = some (.bool negated) ∨
        Fields.get? "negate" fields = none ∧ negated = false := by
  unfold describedNegation
  split
  · rename_i absent
    simp [absent, eq_comm]
  · rename_i given present
    simp [present]
  · rename_i other notBool present
    simp only [present, reduceCtorEq, Option.some.injEq, false_and, or_false, false_iff]
    exact notBool negated

structure DescribedBy (condition : Condition) (fields : Fields Json) : Prop where
  keys : ∀ field ∈ fields, field.1 ∈ allowedKeys
  subject : Fields.get? "attr" fields = some (.string condition.subject)
  value : ∃ value, Fields.get? "value" fields = some value ∧ condition.reference = .ofJson value
  operator : Fields.get? "op" fields = some (.string condition.operator.name) ∨
    Fields.get? "op" fields = none ∧ condition.operator = .eq
  negation : Fields.get? "negate" fields = some (.bool condition.negated) ∨
    Fields.get? "negate" fields = none ∧ condition.negated = false

theorem bind_eq_ok_iff {ε α β : Type} (first : Except ε α) (next : α → Except ε β) (result : β) :
    (first >>= next) = .ok result ↔ ∃ value, first = .ok value ∧ next value = .ok result := by
  cases first <;> simp [bind, Except.bind]

/-- Exactly the described condition is built from fields. -/
theorem ofFields_eq_ok_iff (fields : Fields Json) (condition : Condition) :
    ofFields fields = .ok condition ↔ condition.DescribedBy fields := by
  have keys : (fields.find? fun field => !allowedKeys.contains field.1) = none ↔
      ∀ field ∈ fields, field.1 ∈ allowedKeys := by
    simp
  constructor
  · intro built
    unfold ofFields at built
    split at built
    · cases built
    · rename_i allowed
      obtain ⟨subject, named, built⟩ := (bind_eq_ok_iff _ _ _).1 built
      split at built
      · cases built
      · rename_i value present
        obtain ⟨operator, compared, built⟩ := (bind_eq_ok_iff _ _ _).1 built
        obtain ⟨negated, negation, made⟩ := (bind_eq_ok_iff _ _ _).1 built
        obtain ⟨rfl, reference, rfl, rfl⟩ := (make_eq_ok_iff _ _ _ _ _).1 made
        exact ⟨keys.1 allowed, (describedAttribute_eq_ok_iff _ _).1 named, ⟨value, present, reference⟩,
          (describedOperator_eq_ok_iff _ _).1 compared, (describedNegation_eq_ok_iff _ _).1 negation⟩
  · intro described
    obtain ⟨value, present, reference⟩ := described.value
    have made := (make_eq_ok_iff _ _ _ _ condition).2 ⟨rfl, reference, rfl, rfl⟩
    unfold ofFields
    rw [keys.2 described.keys, (describedAttribute_eq_ok_iff _ _).2 described.subject, present,
      (describedOperator_eq_ok_iff _ _).2 described.operator,
      (describedNegation_eq_ok_iff _ _).2 described.negation]
    exact made

def described (condition : Condition) : Fields Json :=
  ("attr", .string condition.subject) :: (if condition.negated then [("negate", .bool true)] else [])
    ++ [("op", .string condition.operator.name), ("value", condition.reference.toJson)]

theorem toJson_eq_object (condition : Condition) : condition.toJson = .object condition.described := rfl

theorem names_described (condition : Condition) :
    condition.described.map Prod.fst =
      if condition.negated then ["attr", "negate", "op", "value"] else ["attr", "op", "value"] := by
  cases negation : condition.negated <;> simp [described, negation]

theorem sorted_described (condition : Condition) : Fields.Sorted condition.described := by
  have sorted : (condition.described.map Prod.fst).Pairwise (fun left right => left < right) := by
    rw [names_described]
    cases condition.negated <;> decide
  exact List.pairwise_map.1 sorted

theorem mem_allowedKeys_of_described {condition : Condition} {field : String × Json}
    (member : field ∈ condition.described) : field.1 ∈ allowedKeys := by
  have allowed : condition.described.map Prod.fst ⊆ allowedKeys := by
    rw [names_described]
    cases condition.negated <;> decide
  exact allowed (List.mem_map_of_mem member)

@[simp] theorem get?_attr_described (condition : Condition) :
    Fields.get? "attr" condition.described = some (.string condition.subject) := by
  simp [described, Fields.get?]

@[simp] theorem get?_op_described (condition : Condition) :
    Fields.get? "op" condition.described = some (.string condition.operator.name) := by
  cases negation : condition.negated <;> simp [described, negation, Fields.get?]

@[simp] theorem get?_value_described (condition : Condition) :
    Fields.get? "value" condition.described = some condition.reference.toJson := by
  cases negation : condition.negated <;> simp [described, negation, Fields.get?]

@[simp] theorem get?_negate_described (condition : Condition) :
    Fields.get? "negate" condition.described = if condition.negated then some (.bool true) else none := by
  cases negation : condition.negated <;> simp [described, negation, Fields.get?]

theorem described_eq_iff {condition : Condition} {fields : Fields Json} (sorted : Fields.Sorted fields)
    (keys : ∀ field ∈ fields, field.1 ∈ allowedKeys) :
    condition.described = fields ↔
      Fields.get? "attr" fields = some (.string condition.subject) ∧
      Fields.get? "op" fields = some (.string condition.operator.name) ∧
      Fields.get? "value" fields = some condition.reference.toJson ∧
      Fields.get? "negate" fields = if condition.negated then some (.bool true) else none := by
  constructor
  · rintro rfl
    simp
  · rintro ⟨subject, operator, reference, negation⟩
    refine Fields.eq_of_get? (sorted_described condition) sorted ?_
    intro name
    by_cases allowed : name ∈ allowedKeys
    · simp only [allowedKeys, List.mem_cons, List.not_mem_nil, or_false] at allowed
      rcases allowed with rfl | rfl | rfl | rfl
      · rw [subject, get?_attr_described]
      · rw [operator, get?_op_described]
      · rw [reference, get?_value_described]
      · rw [negation, get?_negate_described]
    · have absent {others : Fields Json} (keys : ∀ field ∈ others, field.1 ∈ allowedKeys) :
          Fields.get? name others = none :=
        Fields.get?_eq_none (fun field member same => allowed (same ▸ keys field member))
      rw [absent keys, absent (fun _ => mem_allowedKeys_of_described)]

/-- Building from the description of a condition keeps everything but the reference, of which it keeps the
finite part. -/
theorem ofFields_described_eq_ok_iff (condition rebuilt : Condition) :
    ofFields condition.described = .ok rebuilt ↔
      rebuilt.subject = condition.subject ∧ rebuilt.reference = condition.reference.finitePart ∧
        rebuilt.operator = condition.operator ∧ rebuilt.negated = condition.negated := by
  rw [ofFields_eq_ok_iff]
  constructor
  · rintro ⟨-, subject, ⟨value, present, reference⟩, operator, negation⟩
    have subjects : condition.subject = rebuilt.subject := by simpa using subject
    have references : condition.reference.toJson = value := by simpa using present
    have operators : condition.operator.name = rebuilt.operator.name := by simpa using operator
    rw [← references, Value.ofJson_toJson] at reference
    refine ⟨subjects.symm, reference, Operator.name_injective operators.symm, ?_⟩
    rw [get?_negate_described] at negation
    cases negated : condition.negated
    · simpa [negated] using negation
    · simpa [negated, @eq_comm _ true] using negation
  · rintro ⟨subject, reference, operator, negation⟩
    refine ⟨fun _ => mem_allowedKeys_of_described, ?_, ⟨_, get?_value_described condition, ?_⟩, .inl ?_, ?_⟩
    · rw [get?_attr_described, subject]
    · rw [reference, Value.ofJson_toJson]
    · rw [get?_op_described, operator]
    · rw [get?_negate_described, negation]
      cases condition.negated <;> simp

end Condition

end Criteria
