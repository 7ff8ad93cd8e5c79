import Criteria.Proofs.Condition.Acceptance
import Criteria.Proofs.Json.Rereading
import Criteria.Proofs.RuleSet.Rebuilding
import Criteria.RuleSet.Loading

/-!
Sets stored as text. The description of a set whose references hold no floats is a tree of integers, and
its nesting is counted on the set itself: two levels for every set, one for a condition and one more for a
reference that is a list. Such a set is loaded again from its text exactly if it stays within the limit of
the reader; nothing bounds how deeply sets may be built.
-/
namespace Criteria

theorem Value.whole_toJson {value : Value} (noFloats : value.floats = []) : value.toJson.Whole := by
  induction value with
  | scalar value isScalar =>
    cases value with
    | float x => cases noFloats
    | list items => cases isScalar
    | map fields => cases isScalar
    | null => trivial
    | bool b => trivial
    | int n => trivial
    | string s => trivial
  | list items ih =>
    rw [floats_list, List.flatMap_eq_nil_iff] at noFloats
    rw [toJson, toItems_eq_map, Json.whole_array, List.forall_mem_map]
    exact fun item member => ih item member (noFloats item member)
  | map fields ih =>
    rw [floats_map, List.flatMap_eq_nil_iff] at noFloats
    rw [toJson, toFields_eq_map, Json.whole_object, List.forall_mem_map]
    exact fun field member => ih field member (noFloats field member)

theorem Value.depth_toJson_of_isScalar {value : Value} (isScalar : value.isScalar = true) :
    value.toJson.depth = 0 := by
  cases value with
  | list items => cases isScalar
  | map fields => cases isScalar
  | float x =>
    rw [toJson]
    split <;> rfl
  | null => rfl
  | bool b => rfl
  | int n => rfl
  | string s => rfl

theorem Value.wellFormed_toJson_of_isScalar {value : Value} (isScalar : value.isScalar = true) :
    value.toJson.WellFormed := by
  cases value with
  | list items => cases isScalar
  | map fields => cases isScalar
  | float x =>
    rw [toJson]
    split <;> trivial
  | null => trivial
  | bool b => trivial
  | int n => trivial
  | string s => trivial

namespace Condition

def levels (condition : Condition) : Nat := if condition.reference.kind = .list then 2 else 1

theorem wellFormed_reference (condition : Condition) : condition.reference.toJson.WellFormed := by
  obtain isScalar | ⟨items, same, scalars⟩ := (Value.unsupportedPart?_eq_none_iff _).1 condition.supported
  · exact Value.wellFormed_toJson_of_isScalar isScalar
  · rw [same, Value.toJson, Value.toItems_eq_map, Json.WellFormed, Json.wellFormedItems_iff, List.forall_mem_map]
    exact fun item member => Value.wellFormed_toJson_of_isScalar (scalars item member)

theorem depth_reference (condition : Condition) :
    condition.reference.toJson.depth = if condition.reference.kind = .list then 1 else 0 := by
  obtain isScalar | ⟨items, same, scalars⟩ := (Value.unsupportedPart?_eq_none_iff _).1 condition.supported
  · have noList : condition.reference.kind ≠ .list := by
      cases held : condition.reference <;> simp_all [Value.isScalar, Value.kind]
    rw [Value.depth_toJson_of_isScalar isScalar, if_neg noList]
  · have flat : Json.depthItems (items.map Value.toJson) ≤ 0 := by
      rw [Json.depthItems_le_iff, List.forall_mem_map]
      exact fun item member => Nat.le_of_eq (Value.depth_toJson_of_isScalar (scalars item member))
    rw [same, Value.toJson, Value.toItems_eq_map, Json.depth, Nat.le_zero.1 flat, Value.kind, if_pos rfl]

theorem wellFormed_toJson (condition : Condition) : condition.toJson.WellFormed := by
  have reference := condition.wellFormed_reference
  have fields : Json.WellFormedFields condition.described := by
    cases negation : condition.negated <;> simp [described, negation, Json.WellFormedFields, Json.WellFormed, reference]
  exact ⟨condition.sorted_described, fields⟩

theorem whole_toJson {condition : Condition} (noFloats : condition.reference.floats = []) :
    condition.toJson.Whole := by
  have reference := Value.whole_toJson noFloats
  rw [toJson_eq_object, Json.whole_object]
  cases negation : condition.negated <;> simp [described, negation, Json.Whole, reference]

theorem depth_toJson (condition : Condition) : condition.toJson.depth = condition.levels := by
  have reference := condition.depth_reference
  have fields : Json.depthFields condition.described = condition.reference.toJson.depth := by
    cases negation : condition.negated <;> simp [described, negation, Json.depthFields, Json.depth]
  rw [toJson_eq_object, Json.depth, fields, reference, levels]
  split <;> rfl

end Condition

namespace Rule

mutual

def levels : Rule → Nat
  | .leaf condition => condition.levels
  | .node _ children => levelsOfAll children + 2

def levelsOfAll : List Rule → Nat
  | [] => 0
  | rule :: rest => max (levels rule) (levelsOfAll rest)

end

theorem wellFormed_toJson (rule : Rule) : rule.toJson.WellFormed := by
  induction rule with
  | leaf condition => exact condition.wellFormed_toJson
  | node logic children ih =>
    have items : Json.WellFormedItems (toItems children) := by
      rw [toItems_eq_map, Json.wellFormedItems_iff, List.forall_mem_map]
      exact ih
    exact ⟨List.pairwise_singleton _ _, items, trivial⟩

theorem whole_toJson {rule : Rule} (noFloats : ∀ condition ∈ rule.conditions, condition.reference.floats = []) :
    rule.toJson.Whole := by
  induction rule with
  | leaf condition =>
    rw [conditions_leaf, List.forall_mem_singleton] at noFloats
    exact Condition.whole_toJson noFloats
  | node logic children ih =>
    rw [conditions_node, List.forall_mem_flatMap] at noFloats
    rw [toJson, Json.whole_object, List.forall_mem_singleton, Json.whole_array, toItems_eq_map, List.forall_mem_map]
    exact fun child member => ih child member (noFloats child member)

theorem depth_toJson (rule : Rule) : rule.toJson.depth = rule.levels := by
  induction rule with
  | leaf condition => exact condition.depth_toJson
  | node logic children ih =>
    have items : Json.depthItems (toItems children) = levelsOfAll children := by
      induction children with
      | nil => rfl
      | cons child rest rest_ih =>
        rw [toItems, Json.depthItems, levelsOfAll, ih child List.mem_cons_self,
          rest_ih (fun child member => ih child (List.mem_cons_of_mem _ member))]
    rw [toJson, Json.depth, Json.depthFields, Json.depthFields, Json.depth, items, Nat.max_zero, levels]

theorem finiteReferences_of_noFloats {rule : Rule}
    (noFloats : ∀ condition ∈ rule.conditions, condition.reference.floats = []) : rule.FiniteReferences := by
  intro condition member x float
  rw [noFloats condition member] at float
  cases float

end Rule

namespace RuleSet

theorem ofText_text_toJson {rules : RuleSet}
    (noFloats : ∀ condition ∈ rules.toRule.conditions, condition.reference.floats = []) :
    ofText rules.toJson.text = if rules.toJson.depth ≤ 127 then .ok rules else .error .notJson := by
  have rebuilt := Rule.ofJson_toJson (Rule.finiteReferences_of_noFloats noFloats)
  have built : ofJson rules.toJson = .ok rules := (ofJson_eq_ok_iff _ _).2 rebuilt
  have read : Json.ofText? rules.toJson.text = if rules.toJson.depth ≤ 127 then some rules.toJson else none :=
    Json.ofText?_text (Rule.whole_toJson noFloats) rules.toRule.wellFormed_toJson
  rw [ofText, read]
  by_cases fits : rules.toJson.depth ≤ 127
  · rw [if_pos fits, if_pos fits]
    exact congrArg (Except.mapError LoadError.build) built
  · rw [if_neg fits, if_neg fits]

/-- A set without floats is loaded from its stored text exactly as it was if the text stays within the reader's
limit of nesting, and is no JSON to the reader otherwise. -/
theorem stored_text_reloads {rules : RuleSet}
    (noFloats : ∀ condition ∈ rules.toRule.conditions, condition.reference.floats = []) :
    rules.toJson.depth = rules.toRule.levels ∧
      (rules.toJson.depth ≤ 127 → ofText rules.toJson.text = .ok rules ∧ (rules == rules) = true) ∧
      (127 < rules.toJson.depth → ofText rules.toJson.text = .error .notJson) := by
  have loaded := ofText_text_toJson noFloats
  refine ⟨Rule.depth_toJson _, ?_, ?_⟩
  · intro fits
    rw [if_pos fits] at loaded
    exact ⟨loaded, Rule.equals_self (Rule.finiteReferences_of_noFloats noFloats)⟩
  · intro deeper
    rw [if_neg (Nat.not_le.2 deeper)] at loaded
    exact loaded

def escaped : RuleSet :=
  .all
    [.leaf ⟨⟨"n", by decide⟩, .eq, .string "\"\\\x01é", true, .equal (.string "\"\\\x01é"), rfl, rfl, rfl⟩,
      .node .or [.leaf ⟨⟨"k", by decide⟩, .isIn, .list [.int Int64.minValue], false, .member [.int Int64.minValue],
        rfl, rfl, rfl⟩]]

theorem stored_text_reloads_escaped :
    (∀ condition ∈ escaped.toRule.conditions, condition.reference.floats = []) ∧
      escaped.toJson.depth = 6 ∧ ofText escaped.toJson.text = .ok escaped := by
  have noFloats : ∀ condition ∈ escaped.toRule.conditions, condition.reference.floats = [] := by decide
  obtain ⟨depth, reloads, -⟩ := stored_text_reloads noFloats
  have levels : escaped.toRule.levels = 6 := by decide
  rw [levels] at depth
  exact ⟨noFloats, depth, (reloads (by omega)).1⟩

end RuleSet

end Criteria
