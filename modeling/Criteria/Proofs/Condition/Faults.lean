import Criteria.Proofs.Condition.Acceptance

/-!
What is wrong with a described condition. Ten things are asked of a description, each stated here for
itself and without the builder. The error that building ends in is the one of the first of them that
fails: none of the later ones is looked at.
-/
namespace Criteria

theorem Test.make_eq_error_iff {operator : Operator} {reference : Value}
    (accepted : operator.accepts reference.kind = true) (error : BuildError) :
    make operator reference = .error error ↔ operator = .regex ∧
      ∃ source, reference = .string source ∧ ¬ Pattern.Reads source ∧ .invalidPattern source = error := by
  by_cases regex : operator = .regex
  · subst regex
    obtain ⟨source, rfl⟩ := (Value.kind_eq_string_iff _).1 ((Operator.accepts_iff _ _).1 accepted).2
    have reads := Pattern.ofText?_isSome_iff source
    cases found : Pattern.ofText? source with
    | none => simp_all [make]
    | some pattern => simp_all [make]
  · obtain ⟨test, made⟩ := (exists_make_iff accepted).2 (fun same => absurd same regex)
    rw [made]
    simp [regex]

namespace Condition

inductive Check where
  | mapping
  | keys
  | attribute
  | value
  | operator
  | negation
  | reference
  | acceptance
  | path
  | pattern
deriving DecidableEq, Repr

def Check.order : List Check :=
  [.mapping, .keys, .attribute, .value, .operator, .negation, .reference, .acceptance, .path, .pattern]

/-- The operator that fields give: the one they name, or equality where they name none. -/
def GivesOperator (fields : Fields Json) (operator : Operator) : Prop :=
  Fields.get? "op" fields = some (.string operator.name) ∨ Fields.get? "op" fields = none ∧ operator = .eq

inductive Fault : Json → Check → BuildError → Prop
  | notMapping {json : Json} (other : ∀ fields, json ≠ .object fields) :
      Fault json .mapping (.conditionNotMapping json.shape)
  | unexpectedKey {fields : Fields Json} {key : String} (present : key ∈ fields.map Prod.fst)
      (unexpected : key ∉ allowedKeys)
      (smallest : ∀ other ∈ fields.map Prod.fst, other ∉ allowedKeys → key ≤ other) :
      Fault (.object fields) .keys (.unexpectedKey key)
  | missingAttribute {fields : Fields Json} (absent : Fields.get? "attr" fields = none) :
      Fault (.object fields) .attribute .missingAttribute
  | attributeNotString {fields : Fields Json} {given : Json} (present : Fields.get? "attr" fields = some given)
      (other : ∀ subject, given ≠ .string subject) :
      Fault (.object fields) .attribute (.attributeNotString given.shape)
  | missingValue {fields : Fields Json} (absent : Fields.get? "value" fields = none) :
      Fault (.object fields) .value .missingValue
  | unknownOperator {fields : Fields Json} {name : String}
      (present : Fields.get? "op" fields = some (.string name))
      (unknown : ∀ operator : Operator, operator.name ≠ name) :
      Fault (.object fields) .operator (.unknownOperator name)
  | operatorNotString {fields : Fields Json} {given : Json} (present : Fields.get? "op" fields = some given)
      (other : ∀ name, given ≠ .string name) : Fault (.object fields) .operator (.unknownOperator given.text)
  | negateNotBoolean {fields : Fields Json} {given : Json} (present : Fields.get? "negate" fields = some given)
      (other : ∀ negated, given ≠ .bool negated) :
      Fault (.object fields) .negation (.negateNotBoolean given.shape)
  | mappingReference {fields inner : Fields Json} (present : Fields.get? "value" fields = some (.object inner)) :
      Fault (.object fields) .reference (.unsupportedValue .mapping)
  | nestedReference {fields : Fields Json} {before after : List Json} {item : Json}
      (present : Fields.get? "value" fields = some (.array (before ++ item :: after)))
      (scalars : ∀ earlier ∈ before, earlier.IsScalar) (nested : ¬ item.IsScalar) :
      Fault (.object fields) .reference (.unsupportedValue (Value.ofJson item).kind)
  | incompatible {fields : Fields Json} {operator : Operator} {given : Json}
      (named : GivesOperator fields operator) (present : Fields.get? "value" fields = some given)
      (refused : operator.accepts (Value.ofJson given).kind = false) :
      Fault (.object fields) .acceptance (.incompatibleOperator operator (Value.ofJson given).kind)
  | emptyAttribute {fields : Fields Json} (present : Fields.get? "attr" fields = some (.string "")) :
      Fault (.object fields) .path .emptyAttribute
  | invalidPattern {fields : Fields Json} {source : String} (named : GivesOperator fields .regex)
      (present : Fields.get? "value" fields = some (.string source)) (unreadable : ¬ Pattern.Reads source) :
      Fault (.object fields) .pattern (.invalidPattern source)

def FirstFaultOf (json : Json) (error : BuildError) : List Check → Prop
  | [] => False
  | check :: later =>
    Fault json check error ∨ (∀ other, ¬ Fault json check other) ∧ FirstFaultOf json error later

def FirstFault (json : Json) (error : BuildError) : Prop := FirstFaultOf json error Check.order

theorem firstFaultOf_of_fault {json : Json} {check : Check} (own : BuildError)
    (fault : ∀ error, Fault json check error ↔ own = error) (error : BuildError) (later : List Check) :
    FirstFaultOf json error (check :: later) ↔ own = error := by
  have blocked : ¬ ∀ other, ¬ Fault json check other := fun passed => passed own ((fault own).2 rfl)
  simp only [FirstFaultOf, fault error, blocked, false_and, or_false]

theorem firstFaultOf_of_passed {json : Json} {check : Check} (passed : ∀ error, ¬ Fault json check error)
    (error : BuildError) (later : List Check) :
    FirstFaultOf json error (check :: later) ↔ FirstFaultOf json error later := by
  simp only [FirstFaultOf, passed, false_or, not_false_eq_true, implies_true, true_and]

/-- A check that is made first settles the error if it fails, and leaves it to the later ones if it does
not. -/
theorem bind_eq_error_iff {α : Type} {json : Json} {check : Check} {outcome : Except BuildError α}
    (fails : ∀ error, Fault json check error ↔ outcome = .error error) {next : α → Except BuildError Condition}
    {error : BuildError} {later : List Check}
    (goesOn : ∀ result, outcome = .ok result → (next result = .error error ↔ FirstFaultOf json error later)) :
    (outcome >>= next) = .error error ↔ FirstFaultOf json error (check :: later) := by
  cases outcome with
  | error own =>
    rw [firstFaultOf_of_fault own (by simp [fails])]
    simp [bind, Except.bind]
  | ok result =>
    rw [firstFaultOf_of_passed (by simp [fails])]
    exact goesOn result rfl

theorem exists_fault_of_firstFaultOf {json : Json} {error : BuildError} {checks : List Check}
    (first : FirstFaultOf json error checks) : ∃ check, Fault json check error := by
  induction checks with
  | nil => exact absurd first id
  | cons check later ih =>
    rcases first with fault | ⟨_, first⟩
    · exact ⟨check, fault⟩
    · exact ih first

theorem fault_mapping_iff (json : Json) (error : BuildError) :
    Fault json .mapping error ↔ (∀ fields, json ≠ .object fields) ∧ .conditionNotMapping json.shape = error := by
  constructor
  · intro fault
    cases fault with
    | notMapping other => exact ⟨other, rfl⟩
  · rintro ⟨other, rfl⟩
    exact .notMapping other

/-- In sorted fields the first key that is not allowed is the smallest one. -/
theorem find?_unexpected_iff {fields : Fields Json} (sorted : Fields.Sorted fields) (key : String) :
    (∃ value, (fields.find? fun field => !allowedKeys.contains field.1) = some (key, value)) ↔
      key ∈ fields.map Prod.fst ∧ key ∉ allowedKeys ∧
        ∀ other ∈ fields.map Prod.fst, other ∉ allowedKeys → key ≤ other := by
  have leftmost : ∀ found, (fields.find? fun field => !allowedKeys.contains field.1) = some found →
      found ∈ fields ∧ found.1 ∉ allowedKeys ∧
        ∀ other ∈ fields.map Prod.fst, other ∉ allowedKeys → found.1 ≤ other := by
    intro found search
    obtain ⟨unexpected, before, after, split, allowed⟩ := List.find?_eq_some_iff_append.1 search
    subst split
    refine ⟨by simp, by simpa using unexpected, ?_⟩
    intro other member refused
    obtain ⟨field, held, rfl⟩ := List.mem_map.1 member
    rcases List.mem_append.1 held with early | late
    · exact absurd (by simpa using allowed field early) refused
    · rcases List.mem_cons.1 late with rfl | later
      · exact String.le_refl _
      · have tail := (List.pairwise_append.1 sorted).2.1
        exact Std.le_of_lt ((List.pairwise_cons.1 tail).1 field later)
  constructor
  · rintro ⟨value, search⟩
    obtain ⟨member, unexpected, smallest⟩ := leftmost _ search
    exact ⟨List.mem_map_of_mem member, unexpected, smallest⟩
  · rintro ⟨present, unexpected, smallest⟩
    obtain ⟨⟨name, value⟩, member, rfl⟩ := List.mem_map.1 present
    have somewhere : (fields.find? fun field => !allowedKeys.contains field.1).isSome = true := by
      rw [List.find?_isSome]
      exact ⟨(name, value), member, by simpa using unexpected⟩
    obtain ⟨found, search⟩ := Option.isSome_iff_exists.1 somewhere
    obtain ⟨held, refused, least⟩ := leftmost found search
    have same : found.1 = name := String.le_antisymm (least name present unexpected)
      (smallest found.1 (List.mem_map_of_mem held) refused)
    exact ⟨found.2, by rw [search, ← same]⟩

theorem fault_keys_iff {fields : Fields Json} (sorted : Fields.Sorted fields) (error : BuildError) :
    Fault (.object fields) .keys error ↔
      ∃ key value, (fields.find? fun field => !allowedKeys.contains field.1) = some (key, value) ∧
        .unexpectedKey key = error := by
  constructor
  · intro fault
    cases fault with
    | @unexpectedKey _ key present unexpected smallest =>
      obtain ⟨value, search⟩ := (find?_unexpected_iff sorted key).2 ⟨present, unexpected, smallest⟩
      exact ⟨key, value, search, rfl⟩
  · rintro ⟨key, value, search, rfl⟩
    obtain ⟨present, unexpected, smallest⟩ := (find?_unexpected_iff sorted key).1 ⟨value, search⟩
    exact .unexpectedKey present unexpected smallest

variable {fields : Fields Json}

theorem fault_attribute_iff (error : BuildError) :
    Fault (.object fields) .attribute error ↔ describedAttribute fields = .error error := by
  unfold describedAttribute
  constructor
  · intro fault
    cases fault with
    | missingAttribute absent => rw [absent]
    | @attributeNotString _ given present other => cases given <;> simp_all
  · intro failed
    split at failed
    · cases failed
    · rename_i given other present
      cases failed
      exact .attributeNotString present other
    · rename_i absent
      cases failed
      exact .missingAttribute absent

theorem fault_value_iff (error : BuildError) :
    Fault (.object fields) .value error ↔ Fields.get? "value" fields = none ∧ .missingValue = error := by
  constructor
  · intro fault
    cases fault with
    | missingValue absent => exact ⟨absent, rfl⟩
  · rintro ⟨absent, rfl⟩
    exact .missingValue absent

theorem fault_operator_iff (error : BuildError) :
    Fault (.object fields) .operator error ↔ describedOperator fields = .error error := by
  have unknown (name : String) : Operator.ofName? name = none ↔ ∀ operator : Operator, operator.name ≠ name := by
    rw [Option.eq_none_iff_forall_not_mem]
    exact forall_congr' fun operator => not_congr (Operator.ofName?_eq_some_iff name operator)
  unfold describedOperator
  constructor
  · intro fault
    cases fault with
    | unknownOperator present absent => simp only [present, (unknown _).2 absent]
    | @operatorNotString _ given present other => cases given <;> simp_all
  · intro failed
    split at failed
    · cases failed
    · rename_i name present
      split at failed
      · cases failed
      · rename_i absent
        cases failed
        exact .unknownOperator present ((unknown name).1 absent)
    · rename_i given other present
      cases failed
      exact .operatorNotString present other

theorem fault_negation_iff (error : BuildError) :
    Fault (.object fields) .negation error ↔ describedNegation fields = .error error := by
  unfold describedNegation
  constructor
  · intro fault
    cases fault with
    | @negateNotBoolean _ given present other => cases given <;> simp_all
  · intro failed
    split at failed
    · cases failed
    · cases failed
    · rename_i given other present
      cases failed
      exact .negateNotBoolean present other

theorem unsupportedPart?_ofJson_eq_some_iff (given : Json) (kind : Kind) :
    (Value.ofJson given).unsupportedPart? = some kind ↔
      (∃ inner, given = .object inner ∧ kind = .mapping) ∨
        ∃ before item after, given = .array (before ++ item :: after) ∧
          (∀ earlier ∈ before, earlier.IsScalar) ∧ ¬ item.IsScalar ∧ (Value.ofJson item).kind = kind := by
  cases given with
  | array items =>
    have search : (Value.ofJson (.array items)).unsupportedPart? =
        (items.find? fun item => !(Value.ofJson item).isScalar).map fun item => (Value.ofJson item).kind := by
      rw [Value.ofJson, Value.ofItems_eq_map, Value.unsupportedPart?, List.find?_map, Option.map_map]
      rfl
    rw [search, Option.map_eq_some_iff]
    simp only [List.find?_eq_some_iff_append, Bool.not_eq_true', Bool.not_not, ← Bool.not_eq_true,
      Json.isScalar_ofJson_iff, reduceCtorEq, false_and, exists_false, false_or, Json.array.injEq]
    constructor
    · rintro ⟨item, ⟨nested, before, after, split, scalars⟩, same⟩
      exact ⟨before, item, after, split, scalars, nested, same⟩
    · rintro ⟨before, item, after, split, scalars, nested, same⟩
      exact ⟨item, ⟨nested, before, after, split, scalars⟩, same⟩
  | object inner => simp [Value.ofJson, Value.unsupportedPart?, eq_comm]
  | number n =>
    rw [Value.ofJson]
    rcases Value.ofNumber_cases n with ⟨k, same⟩ | ⟨x, same⟩ <;> simp [same, Value.unsupportedPart?]
  | null => simp [Value.ofJson, Value.unsupportedPart?]
  | bool b => simp [Value.ofJson, Value.unsupportedPart?]
  | string s => simp [Value.ofJson, Value.unsupportedPart?]

theorem fault_reference_iff {given : Json} (present : Fields.get? "value" fields = some given)
    (error : BuildError) :
    Fault (.object fields) .reference error ↔
      ∃ kind, (Value.ofJson given).unsupportedPart? = some kind ∧ .unsupportedValue kind = error := by
  simp only [unsupportedPart?_ofJson_eq_some_iff]
  constructor
  · intro fault
    cases fault with
    | mappingReference mapping =>
      rw [present, Option.some.injEq] at mapping
      exact ⟨_, .inl ⟨_, mapping, rfl⟩, rfl⟩
    | nestedReference list scalars nested =>
      rw [present, Option.some.injEq] at list
      exact ⟨_, .inr ⟨_, _, _, list, scalars, nested, rfl⟩, rfl⟩
  · rintro ⟨kind, ⟨inner, rfl, rfl⟩ | ⟨before, item, after, rfl, scalars, nested, rfl⟩, rfl⟩
    · exact .mappingReference present
    · exact .nestedReference present scalars nested

theorem GivesOperator.unique {operator other : Operator} (named : GivesOperator fields operator)
    (also : GivesOperator fields other) : operator = other := by
  rcases named with word | ⟨absent, rfl⟩
  · rcases also with word' | ⟨absent, -⟩
    · rw [word, Option.some.injEq, Json.string.injEq] at word'
      exact Operator.name_injective word'
    · rw [word] at absent
      cases absent
  · rcases also with word' | ⟨-, rfl⟩
    · rw [absent] at word'
      cases word'
    · rfl

theorem fault_acceptance_iff {operator : Operator} {given : Json} (named : GivesOperator fields operator)
    (present : Fields.get? "value" fields = some given) (error : BuildError) :
    Fault (.object fields) .acceptance error ↔ operator.accepts (Value.ofJson given).kind = false ∧
      .incompatibleOperator operator (Value.ofJson given).kind = error := by
  constructor
  · intro fault
    cases fault with
    | incompatible also present' refused =>
      obtain rfl := named.unique also
      rw [present, Option.some.injEq] at present'
      subst present'
      exact ⟨refused, rfl⟩
  · rintro ⟨refused, rfl⟩
    exact .incompatible named present refused

theorem fault_path_iff {subject : String} (present : Fields.get? "attr" fields = some (.string subject))
    (error : BuildError) :
    Fault (.object fields) .path error ↔ subject = "" ∧ .emptyAttribute = error := by
  constructor
  · intro fault
    cases fault with
    | emptyAttribute empty =>
      rw [present, Option.some.injEq, Json.string.injEq] at empty
      exact ⟨empty, rfl⟩
  · rintro ⟨rfl, rfl⟩
    exact .emptyAttribute present

theorem fault_pattern_iff {operator : Operator} {given : Json} (named : GivesOperator fields operator)
    (present : Fields.get? "value" fields = some given) (error : BuildError) :
    Fault (.object fields) .pattern error ↔ operator = .regex ∧
      ∃ source, given = .string source ∧ ¬ Pattern.Reads source ∧ .invalidPattern source = error := by
  constructor
  · intro fault
    cases fault with
    | invalidPattern also present' unreadable =>
      rw [present, Option.some.injEq] at present'
      exact ⟨named.unique also, _, present', unreadable, rfl⟩
  · rintro ⟨rfl, source, rfl, unreadable, rfl⟩
    exact .invalidPattern named present unreadable

theorem make_eq_error_iff {subject : String} {given : Json} {operator : Operator} (negated : Bool)
    (subjectGiven : Fields.get? "attr" fields = some (.string subject))
    (valueGiven : Fields.get? "value" fields = some given) (named : GivesOperator fields operator)
    (error : BuildError) :
    make subject (.ofJson given) operator negated = .error error ↔
      FirstFaultOf (.object fields) error [.reference, .acceptance, .path, .pattern] := by
  have reference := fault_reference_iff valueGiven
  have acceptance := fault_acceptance_iff named valueGiven
  have path := fault_path_iff subjectGiven
  have pattern := fault_pattern_iff named valueGiven
  unfold make
  split
  · rename_i kind unsupported
    rw [firstFaultOf_of_fault (.unsupportedValue kind) (by simp [reference, unsupported]),
      Except.error.injEq]
  · rename_i supported
    rw [firstFaultOf_of_passed (by simp [reference, supported])]
    split
    · rename_i accepted
      rw [firstFaultOf_of_passed (by simp [acceptance, accepted])]
      have empty : Path.ofText? subject = none ↔ subject = "" := by
        simp [Path.ofText?]
      split
      · rename_i refused
        have noPath : subject = "" := empty.1 refused
        rw [firstFaultOf_of_fault .emptyAttribute (by simp [path, noPath]), Except.error.injEq]
      · rename_i found parsed
        have nonempty : subject ≠ "" := fun noPath => by simp [empty.2 noPath] at parsed
        have only : FirstFaultOf (.object fields) error [.pattern] ↔ Fault (.object fields) .pattern error := by
          simp [FirstFaultOf]
        have refusal := Test.make_eq_error_iff accepted error
        simp only [ofJson_eq_string_iff] at refusal
        rw [firstFaultOf_of_passed (by simp [path, nonempty]), only, pattern, ← refusal]
        split
        · rename_i own failed
          simp [failed]
        · rename_i test made
          simp [made]
    · rename_i refused
      rw [firstFaultOf_of_fault (.incompatibleOperator operator (Value.ofJson given).kind)
        (by simp [acceptance, refused]), Except.error.injEq]

theorem ofFields_eq_error_iff (sorted : Fields.Sorted fields) (error : BuildError) :
    ofFields fields = .error error ↔ FirstFaultOf (.object fields) error
      [.keys, .attribute, .value, .operator, .negation, .reference, .acceptance, .path, .pattern] := by
  have keys := fault_keys_iff sorted
  unfold ofFields
  split
  · rename_i key value search
    rw [search] at keys
    rw [firstFaultOf_of_fault (.unexpectedKey key) (by simp [keys]), Except.error.injEq]
  · rename_i search
    rw [search] at keys
    rw [firstFaultOf_of_passed (by simp [keys])]
    refine bind_eq_error_iff fault_attribute_iff ?_
    intro subject named
    have subjectGiven := (describedAttribute_eq_ok_iff _ _).1 named
    split
    · rename_i absent
      rw [firstFaultOf_of_fault .missingValue (by simp [fault_value_iff, absent]), Except.error.injEq]
    · rename_i given valueGiven
      rw [firstFaultOf_of_passed (by simp [fault_value_iff, valueGiven])]
      refine bind_eq_error_iff fault_operator_iff ?_
      intro operator compared
      have operatorGiven := (describedOperator_eq_ok_iff _ _).1 compared
      refine bind_eq_error_iff fault_negation_iff ?_
      intro negated _
      exact make_eq_error_iff negated subjectGiven valueGiven operatorGiven error

theorem ofJson_eq_of_not_mapping {json : Json} (other : ∀ fields, json ≠ .object fields) :
    ofJson json = .error (.conditionNotMapping json.shape) := by
  cases json with
  | object fields => exact absurd rfl (other fields)
  | null => rfl
  | bool b => rfl
  | number n => rfl
  | string s => rfl
  | array items => rfl

/-- Building a condition ends in the error of the first check that its description fails. -/
theorem ofJson_eq_error_iff {json : Json} (wellFormed : json.WellFormed) (error : BuildError) :
    ofJson json = .error error ↔ FirstFault json error := by
  rw [FirstFault, Check.order]
  by_cases mapping : ∃ fields, json = .object fields
  · obtain ⟨fields, rfl⟩ := mapping
    rw [firstFaultOf_of_passed (by simp [fault_mapping_iff])]
    exact ofFields_eq_error_iff wellFormed.1 error
  · have other : ∀ fields, json ≠ .object fields := fun fields same => mapping ⟨fields, same⟩
    have fault : ∀ error, Fault json .mapping error ↔ .conditionNotMapping json.shape = error := by
      intro error
      simp [fault_mapping_iff, other]
    rw [firstFaultOf_of_fault _ fault, ofJson_eq_of_not_mapping other, Except.error.injEq]

end Condition

end Criteria
