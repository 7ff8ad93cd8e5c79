import Criteria.Proofs.Condition.Faults
import Criteria.Proofs.RuleSet.Grammar

/-!
What is wrong with a description of rules. The error that building ends in is the one of the first part that
is wrong, where the parts are taken from left to right and from the outside in: what stands behind the first
wrong rule of a set, at any depth, is never looked at. The root has three errors of its own, because what is
no set there is not taken for a condition.
-/
namespace Criteria

/-- The errors of a description that is no set at its root. -/
def BuildError.OfRoot : BuildError → Prop
  | .rulesNotMapping _ => True
  | .rulesNotSingle _ => True
  | .unknownLogic _ => True
  | _ => False

def Json.DescribesRule (json : Json) : Prop :=
  (json.NamesLogic → json.DescribesSet) ∧ (¬ json.NamesLogic → json.DescribesCondition)

inductive Rule.FirstFault : Json → BuildError → Prop
  | operands {logic : Logic} {key : String} {operands : Json} (named : logic.NamedBy key)
      (other : ∀ items, operands ≠ .array items) :
      FirstFault (.object [(key, operands)]) (.operandsNotList logic operands.shape)
  | item {logic : Logic} {key : String} {before after : List Json} {item : Json} {error : BuildError}
      (named : logic.NamedBy key) (sound : ∀ earlier ∈ before, earlier.DescribesRule)
      (fault : FirstFault item error) : FirstFault (.object [(key, .array (before ++ item :: after))]) error
  | condition {json : Json} {error : BuildError} (noSet : ¬ json.NamesLogic)
      (fault : Condition.FirstFault json error) : FirstFault json error

inductive RuleSet.FirstFault : Json → BuildError → Prop
  | notMapping {json : Json} (other : ∀ fields, json ≠ .object fields) :
      FirstFault json (.rulesNotMapping json.shape)
  | notSingle {fields : Fields Json} (keys : fields.length ≠ 1) :
      FirstFault (.object fields) (.rulesNotSingle fields.length)
  | unknownLogic {key : String} {operands : Json} (unknown : ∀ logic : Logic, ¬ logic.NamedBy key) :
      FirstFault (.object [(key, operands)]) (.unknownLogic key)
  | inside {json : Json} {error : BuildError} (names : json.NamesLogic) (fault : Rule.FirstFault json error) :
      FirstFault json error

/-- The other tree is the same up to the first wrong rule, and so is that rule; what stands behind it, at every
depth, may be different. -/
inductive Rule.SameToFault : Json → Json → Prop
  | same (json : Json) : SameToFault json json
  | item {logic : Logic} {key : String} {before after others : List Json} {item other : Json}
      (named : logic.NamedBy key) (sound : ∀ earlier ∈ before, earlier.DescribesRule)
      (wrong : ¬ item.DescribesRule) (inside : SameToFault item other) :
      SameToFault (.object [(key, .array (before ++ item :: after))])
        (.object [(key, .array (before ++ other :: others))])

theorem map_eq_error_iff {ε α β : Type} (change : α → β) (outcome : Except ε α) (error : ε) :
    outcome.map change = .error error ↔ outcome = .error error := by
  cases outcome <;> simp [Except.map]

namespace Rule

theorem exists_ofJson_iff (json : Json) : (∃ rule, ofJson json = .ok rule) ↔ json.DescribesRule := by
  constructor
  · rintro ⟨rule, built⟩
    exact describes_of_built built
  · rintro ⟨set, condition⟩
    by_cases names : json.NamesLogic
    · obtain ⟨logic, children, built⟩ := exists_node_of_describesSet (set names)
      exact ⟨_, built⟩
    · obtain ⟨leaf, built⟩ := (exists_leaf_iff json).2 (condition names)
      exact ⟨_, built⟩

theorem ofItems_eq_error_iff (items : List Json) (error : BuildError) :
    ofItems items = .error error ↔
      ∃ before item after, items = before ++ item :: after ∧
        (∀ earlier ∈ before, earlier.DescribesRule) ∧ ofJson item = .error error := by
  simp only [← exists_ofJson_iff]
  induction items with
  | nil => simp [ofItems]
  | cons first rest ih =>
    rw [ofItems]
    constructor
    · intro failed
      cases head : ofJson first with
      | error own =>
        rw [head] at failed
        cases failed
        exact ⟨[], first, rest, rfl, by simp, head⟩
      | ok rule =>
        cases tail : ofItems rest with
        | ok rules => simp [head, tail] at failed
        | error own =>
          rw [head, tail] at failed
          cases failed
          obtain ⟨before, item, after, split, sound, wrong⟩ := ih.1 tail
          refine ⟨first :: before, item, after, by rw [split, List.cons_append], ?_, wrong⟩
          exact List.forall_mem_cons.2 ⟨⟨rule, head⟩, sound⟩
    · rintro ⟨before, item, after, split, sound, wrong⟩
      cases before with
      | nil =>
        obtain ⟨rfl, rfl⟩ := List.cons.inj split
        rw [wrong]
      | cons earlier before =>
        obtain ⟨rfl, rfl⟩ := List.cons.inj split
        obtain ⟨⟨rule, head⟩, sound⟩ := List.forall_mem_cons.1 sound
        have tail := ih.2 ⟨before, item, after, rfl, sound, wrong⟩
        rw [head, tail]

theorem ofJson_of_namedBy {logic : Logic} {key : String} (named : logic.NamedBy key) (operands : Json) :
    ofJson (.object [(key, operands)]) = (operandsOfJson logic operands).map (.node logic) := by
  rw [ofJson, (Logic.ofName?_eq_some_iff key logic).2 named]

theorem ofJson_of_not_namesLogic {json : Json} (noSet : ¬ json.NamesLogic) :
    ofJson json = (Condition.ofJson json).map .leaf := by
  rw [ofJson_eq]
  cases found : setOf? json with
  | none => rfl
  | some pair =>
    obtain ⟨key, same, named⟩ := (setOf?_eq_some_iff json pair.1 pair.2).1 found
    exact absurd ⟨pair.1, key, pair.2, same, (Logic.ofName?_eq_some_iff _ _).1 named⟩ noSet

theorem namedBy_unique {logic other : Logic} {key : String} (named : logic.NamedBy key)
    (also : other.NamedBy key) : logic = other := by
  have first := (Logic.ofName?_eq_some_iff key logic).2 named
  have second := (Logic.ofName?_eq_some_iff key other).2 also
  exact Option.some.inj (first.symm.trans second)

theorem operandsOfJson_eq_error_iff (logic : Logic) (operands : Json) (error : BuildError) :
    operandsOfJson logic operands = .error error ↔
      ((∀ items, operands ≠ .array items) ∧ .operandsNotList logic operands.shape = error) ∨
        ∃ items, operands = .array items ∧ ofItems items = .error error := by
  cases operands with
  | array items => simp [operandsOfJson]
  | null => simp [operandsOfJson, Json.shape]
  | bool b => simp [operandsOfJson, Json.shape]
  | number n => simp [operandsOfJson, Json.shape]
  | string s => simp [operandsOfJson, Json.shape]
  | object fields => simp [operandsOfJson, Json.shape]

/-- One step from a set to its rules: the first fault of the set is that of its first wrong rule. -/
theorem firstFault_of_namedBy_iff {logic : Logic} {key : String} {operands : Json}
    (named : logic.NamedBy key)
    (inside : ∀ items, operands = .array items → ∀ item ∈ items, ∀ error,
      ofJson item = .error error ↔ FirstFault item error) (error : BuildError) :
    ofJson (.object [(key, operands)]) = .error error ↔ FirstFault (.object [(key, operands)]) error := by
  rw [ofJson_of_namedBy named, map_eq_error_iff, operandsOfJson_eq_error_iff]
  constructor
  · intro failed
    rcases failed with ⟨other, rfl⟩ | ⟨items, rfl, failed⟩
    · exact .operands named other
    · obtain ⟨before, item, after, rfl, sound, wrong⟩ := (ofItems_eq_error_iff items error).1 failed
      have fault := (inside _ rfl item (by simp) error).1 wrong
      exact .item named sound fault
  · intro fault
    cases fault with
    | operands also other =>
      rw [namedBy_unique named also]
      exact .inl ⟨other, rfl⟩
    | @item _ _ before after item _ also sound fault =>
      have wrong := (inside _ rfl item (by simp) error).2 fault
      exact .inr ⟨_, rfl, (ofItems_eq_error_iff _ error).2 ⟨before, item, after, rfl, sound, wrong⟩⟩
    | condition noSet fault => exact absurd ⟨logic, key, operands, rfl, named⟩ noSet

theorem firstFault_of_not_namesLogic_iff {json : Json} (noSet : ¬ json.NamesLogic) (wellFormed : json.WellFormed)
    (error : BuildError) : ofJson json = .error error ↔ FirstFault json error := by
  rw [ofJson_of_not_namesLogic noSet, map_eq_error_iff, Condition.ofJson_eq_error_iff wellFormed]
  constructor
  · exact .condition noSet
  · intro fault
    cases fault with
    | operands named other => exact absurd ⟨_, _, _, rfl, named⟩ noSet
    | item named sound fault => exact absurd ⟨_, _, _, rfl, named⟩ noSet
    | condition _ fault => exact fault

/-- Building a rule ends in the error of the first thing that is wrong with its description. -/
theorem ofJson_eq_error_iff {json : Json} (wellFormed : json.WellFormed) (error : BuildError) :
    ofJson json = .error error ↔ FirstFault json error := by
  -- A set needs the statement for what stands in its list, two levels down, so arrays carry it for their items.
  have both : (∀ error, ofJson json = .error error ↔ FirstFault json error) ∧
      ∀ items, json = .array items → ∀ item ∈ items, ∀ error,
        ofJson item = .error error ↔ FirstFault item error := by
    clear error
    induction json with
    | object fields ih =>
      refine ⟨?_, nofun⟩
      by_cases names : (Json.object fields).NamesLogic
      · obtain ⟨logic, key, operands, same, named⟩ := names
        cases same
        have operandsWellFormed : operands.WellFormed := wellFormed.2.1
        exact firstFault_of_namedBy_iff named (ih (key, operands) List.mem_cons_self operandsWellFormed).2
      · exact firstFault_of_not_namesLogic_iff names wellFormed
    | array items ih =>
      refine ⟨firstFault_of_not_namesLogic_iff (by simp [Json.NamesLogic]) wellFormed, ?_⟩
      intro others same item member
      cases same
      exact (ih item member ((Json.wellFormedItems_iff items).1 wellFormed item member)).1
    | null => exact ⟨firstFault_of_not_namesLogic_iff (by simp [Json.NamesLogic]) wellFormed, nofun⟩
    | bool b => exact ⟨firstFault_of_not_namesLogic_iff (by simp [Json.NamesLogic]) wellFormed, nofun⟩
    | number n => exact ⟨firstFault_of_not_namesLogic_iff (by simp [Json.NamesLogic]) wellFormed, nofun⟩
    | string s => exact ⟨firstFault_of_not_namesLogic_iff (by simp [Json.NamesLogic]) wellFormed, nofun⟩
  exact both.1 error

theorem FirstFault.not_ofRoot {json : Json} {error : BuildError} (fault : FirstFault json error) :
    ¬ error.OfRoot := by
  induction fault with
  | operands named other => exact id
  | item named sound fault ih => exact ih
  | condition noSet first =>
    obtain ⟨check, fault⟩ := Condition.exists_fault_of_firstFaultOf first
    cases fault <;> exact id

theorem ofJson_eq_error_of_first {logic : Logic} {key : String} {before : List Json} {item : Json}
    {error : BuildError} (after : List Json) (named : logic.NamedBy key) (sound : ∀ earlier ∈ before, earlier.DescribesRule)
    (wrong : ofJson item = .error error) :
    ofJson (.object [(key, .array (before ++ item :: after))]) = .error error := by
  rw [ofJson_of_namedBy named, map_eq_error_iff, operandsOfJson, ofItems_eq_error_iff]
  exact ⟨before, item, after, rfl, sound, wrong⟩

/-- What stands behind the first wrong rule does not change the error. -/
theorem SameToFault.ofJson_eq {json other : Json} (alike : SameToFault json other) {error : BuildError}
    (failed : ofJson json = .error error) : ofJson other = .error error := by
  induction alike generalizing error with
  | same json => exact failed
  | @item logic key before after others item other named sound wrong inside ih =>
    cases own : ofJson item with
    | ok rule => exact absurd ((exists_ofJson_iff item).1 ⟨rule, own⟩) wrong
    | error first =>
      have set := ofJson_eq_error_of_first after named sound own
      rw [failed, Except.error.injEq] at set
      subst set
      exact ofJson_eq_error_of_first others named sound (ih own)

theorem SameToFault.namesLogic_iff {json other : Json} (alike : SameToFault json other) :
    json.NamesLogic ↔ other.NamesLogic := by
  cases alike with
  | same => exact Iff.rfl
  | item named sound wrong inside => exact iff_of_true ⟨_, _, _, rfl, named⟩ ⟨_, _, _, rfl, named⟩

end Rule

namespace RuleSet

theorem ofJson_eq_error_iff_of_namesLogic {json : Json} (names : json.NamesLogic) (error : BuildError) :
    ofJson json = .error error ↔ Rule.ofJson json = .error error := by
  obtain ⟨logic, key, operands, rfl, named⟩ := names
  rw [Rule.ofJson_of_namedBy named, ofJson, (Logic.ofName?_eq_some_iff key logic).2 named, map_eq_error_iff,
    map_eq_error_iff]

/-- What names no logic is no set at the root, and the reason is all that is told about it. -/
theorem ofJson_eq_error_iff_of_not_namesLogic {json : Json} (noSet : ¬ json.NamesLogic) (error : BuildError) :
    ofJson json = .error error ↔ FirstFault json error := by
  constructor
  · intro failed
    unfold ofJson at failed
    split at failed
    · rename_i key operands
      split at failed
      · rename_i logic named
        exact absurd ⟨logic, key, operands, rfl, (Logic.ofName?_eq_some_iff key logic).1 named⟩ noSet
      · rename_i unnamed
        cases failed
        apply FirstFault.unknownLogic
        intro logic named
        rw [(Logic.ofName?_eq_some_iff key logic).2 named] at unnamed
        cases unnamed
    · rename_i fields notSingle
      cases failed
      apply FirstFault.notSingle
      intro single
      obtain ⟨⟨key, operands⟩, rfl⟩ := List.length_eq_one_iff.1 single
      exact notSingle key operands rfl
    · rename_i other
      cases failed
      exact .notMapping other
  · intro fault
    cases fault with
    | notMapping other => cases json <;> simp_all [ofJson]
    | @notSingle fields keys =>
      match fields with
      | [] => rfl
      | [_] => exact absurd rfl keys
      | _ :: _ :: _ => rfl
    | @unknownLogic key operands unknown =>
      rw [ofJson]
      cases named : Logic.ofName? key with
      | none => rfl
      | some logic => exact absurd ((Logic.ofName?_eq_some_iff key logic).1 named) (unknown logic)
    | inside names fault => exact absurd names noSet

theorem ofJson_eq_error_iff {json : Json} (wellFormed : json.WellFormed) (error : BuildError) :
    ofJson json = .error error ↔ FirstFault json error := by
  by_cases names : json.NamesLogic
  · rw [ofJson_eq_error_iff_of_namesLogic names, Rule.ofJson_eq_error_iff wellFormed]
    constructor
    · exact .inside names
    · intro fault
      obtain ⟨logic, key, operands, rfl, named⟩ := names
      cases fault with
      | notMapping other => exact absurd rfl (other _)
      | notSingle keys => exact absurd rfl keys
      | unknownLogic unknown => exact absurd named (unknown logic)
      | inside _ fault => exact fault
  · exact ofJson_eq_error_iff_of_not_namesLogic names error

theorem FirstFault.ofRoot_iff {json : Json} {error : BuildError} (fault : FirstFault json error) :
    error.OfRoot ↔ ¬ json.NamesLogic := by
  cases fault with
  | notMapping other => exact iff_of_true trivial fun ⟨_, _, _, same, _⟩ => other _ same
  | notSingle keys =>
    refine iff_of_true trivial ?_
    rintro ⟨logic, key, operands, same, -⟩
    cases same
    exact keys rfl
  | unknownLogic unknown =>
    refine iff_of_true trivial ?_
    rintro ⟨logic, key, operands, same, named⟩
    cases same
    exact unknown logic named
  | inside names fault => exact iff_of_false fault.not_ofRoot (not_not_intro names)

/-- The error of a description is that of the first thing that is wrong with it. It stays the same whatever
stands behind the first wrong rule at any depth, and it is an error of the root exactly if the root names no
logic. -/
theorem ofJson_error_of_first_fault {json : Json} (wellFormed : json.WellFormed) :
    (∀ error, ofJson json = .error error ↔ FirstFault json error) ∧
      (∀ other error, Rule.SameToFault json other → ofJson json = .error error →
        ofJson other = .error error) ∧
      ∀ error, ofJson json = .error error → (error.OfRoot ↔ ¬ json.NamesLogic) := by
  refine ⟨ofJson_eq_error_iff wellFormed, ?_, ?_⟩
  · intro other error alike failed
    by_cases names : json.NamesLogic
    · have otherNames := alike.namesLogic_iff.1 names
      rw [ofJson_eq_error_iff_of_namesLogic names] at failed
      rw [ofJson_eq_error_iff_of_namesLogic otherNames]
      exact alike.ofJson_eq failed
    · cases alike with
      | same => exact failed
      | item named => exact absurd ⟨_, _, _, rfl, named⟩ names
  · intro error failed
    exact ((ofJson_eq_error_iff wellFormed error).1 failed).ofRoot_iff

def muddled : Json := .object [("and", .array [
  .object [("attr", .string "a"), ("value", .bool true)],
  .object [("OR", .array [
    .object [("aaa", .null), ("attr", .null), ("op", .string "like"), ("value", .object [])], .null])],
  .object [("xor", .array [])]])]

theorem ofJson_error_of_first_fault_muddled :
    muddled.WellFormed ∧ ofJson muddled = .error (.unexpectedKey "aaa") ∧
      (∀ error, ofJson muddled = .error error ↔ FirstFault muddled error) ∧
      (∀ other error, Rule.SameToFault muddled other → ofJson muddled = .error error →
        ofJson other = .error error) ∧
      ∀ error, ofJson muddled = .error error → (error.OfRoot ↔ ¬ muddled.NamesLogic) := by
  have wellFormed : muddled.WellFormed := by
    simp only [muddled, Json.WellFormed, Json.WellFormedItems, Json.WellFormedFields, Fields.Sorted, and_true,
      true_and]
    decide
  have failed : ofJson muddled = .error (.unexpectedKey "aaa") := by rfl
  exact ⟨wellFormed, failed, ofJson_error_of_first_fault wellFormed⟩

end RuleSet

end Criteria
