import Criteria.Proofs.Binary64.Nearest
import Criteria.Proofs.Value.Interchange

/-!
From values to JSON and back, and from JSON to values and back. What either way around changes is written down as a
function of the tree alone: floats that are not finite become null, and integers beyond the signed range become the
doubles nearest to them. A tree gives the same value whether it is used up or copied.
-/
namespace Criteria

namespace Fields

variable {α β : Type}

theorem sorted_map {fields : Fields α} (sorted : Sorted fields) (change : α → β) :
    Sorted (fields.map fun field => (field.1, change field.2)) :=
  List.pairwise_map.2 sorted

end Fields

namespace Json

def Number.narrowed : Number → Number
  | .int n inRange =>
    if large : 2 ^ 63 ≤ n then .float (.ofInt n) (Binary64.isFinite_ofInt_of_large large inRange.2)
    else .int n inRange
  | .float x finite => .float x finite

mutual

/-- The tree with the nearest double in the place of every integer beyond the signed range. -/
def narrowed : Json → Json
  | .number n => .number n.narrowed
  | .array items => .array (narrowedItems items)
  | .object fields => .object (narrowedFields fields)
  | json => json

def narrowedItems : List Json → List Json
  | [] => []
  | item :: rest => narrowed item :: narrowedItems rest

def narrowedFields : Fields Json → Fields Json
  | [] => []
  | (name, value) :: rest => (name, narrowed value) :: narrowedFields rest

end

theorem narrowedItems_eq_map (items : List Json) : narrowedItems items = items.map narrowed :=
  eq_map_of_cons rfl (fun _ _ => rfl) items

theorem narrowedFields_eq_map (fields : Fields Json) :
    narrowedFields fields = fields.map (fun field => (field.1, field.2.narrowed)) :=
  eq_map_of_cons rfl (fun _ _ => rfl) fields

theorem integers_inRange (json : Json) : ∀ n ∈ json.integers, -2 ^ 63 ≤ n ∧ n < 2 ^ 64 := by
  induction json with
  | null => simp [integers]
  | bool b => simp [integers]
  | number n =>
    cases n with
    | int n inRange => simpa only [integers, List.forall_mem_singleton] using inRange
    | float x finite => simp [integers]
  | string s => simp [integers]
  | array items ih =>
    rw [integers_array, List.forall_mem_flatMap]
    exact ih
  | object fields ih =>
    rw [integers_object, List.forall_mem_flatMap]
    exact ih

theorem isNearest_of_mem_integers {json : Json} {n : Int} (member : n ∈ json.integers) (large : 2 ^ 63 ≤ n) :
    (Binary64.ofInt n).IsNearest (n * (2 ^ 1074 : Nat)) := by
  obtain ⟨-, bounded⟩ := json.integers_inRange n member
  exact Binary64.isNearest_ofInt (by omega) bounded

end Json

namespace Value

theorem toJson_ofNumber (n : Json.Number) : (ofNumber n).toJson = .number n.narrowed := by
  cases n with
  | float x finite => rw [ofNumber, toJson, dif_pos finite, Json.Number.narrowed]
  | int n inRange =>
    rw [ofNumber, Json.Number.narrowed]
    by_cases large : 2 ^ 63 ≤ n
    · have rounded := Binary64.isFinite_ofInt_of_large large inRange.2
      rw [if_neg (by omega), dif_pos large, toJson, dif_pos rounded]
    · have same : (Int64.ofInt n).toInt = n := Int64.toInt_ofInt_of_le inRange.1 (by omega)
      simp only [if_pos (Int.not_le.1 large), dif_neg large, toJson, same]

theorem toJson_ofJson (json : Json) : (ofJson json).toJson = json.narrowed := by
  induction json with
  | null => rfl
  | bool b => rfl
  | number n => exact toJson_ofNumber n
  | string s => rfl
  | array items ih =>
    rw [ofJson, toJson, Json.narrowed, ofItems_eq_map, toItems_eq_map, Json.narrowedItems_eq_map, List.map_map]
    exact congrArg Json.array (List.map_congr_left ih)
  | object fields ih =>
    rw [ofJson, toJson, Json.narrowed, ofFields_eq_map, toFields_eq_map, Json.narrowedFields_eq_map, List.map_map]
    refine congrArg Json.object (List.map_congr_left ?_)
    exact fun field member => congrArg (Prod.mk field.1) (ih field member)

theorem ofJson_toJson_eq_self_iff (value : Value) :
    ofJson value.toJson = value ↔ ∀ x ∈ value.floats, x.isFinite = true := by
  constructor
  · intro same
    rw [← same]
    exact floats_ofJson value.toJson
  · intro finite
    rw [ofJson_toJson, finitePart_eq_self finite]

theorem copiesOfItems_eq_map (items : List Json) : copiesOfItems items = items.map copyOfJson :=
  eq_map_of_cons rfl (fun _ _ => rfl) items

theorem copiesOfFields_eq_map (fields : Fields Json) :
    copiesOfFields fields = fields.map (fun field => (field.1, copyOfJson field.2)) :=
  eq_map_of_cons rfl (fun _ _ => rfl) fields

theorem copyOfJson_eq_ofJson (json : Json) : copyOfJson json = ofJson json := by
  induction json with
  | null => rfl
  | bool b => rfl
  | number n => rfl
  | string s => rfl
  | array items ih =>
    rw [copyOfJson, ofJson, copiesOfItems_eq_map, ofItems_eq_map]
    exact congrArg Value.list (List.map_congr_left ih)
  | object fields ih =>
    rw [copyOfJson, ofJson, copiesOfFields_eq_map, ofFields_eq_map]
    refine congrArg Value.map (List.map_congr_left ?_)
    exact fun field member => congrArg (Prod.mk field.1) (ih field member)

theorem wellFormed_ofNumber (n : Json.Number) : (ofNumber n).WellFormed := by
  cases n with
  | float x finite => trivial
  | int n inRange =>
    rw [ofNumber]
    split <;> trivial

/-- Sorted fields give sorted fields, so the entries of an object are a mapping as they come. -/
theorem wellFormed_ofJson {json : Json} (wellFormed : json.WellFormed) : (ofJson json).WellFormed := by
  induction json with
  | null => trivial
  | bool b => trivial
  | number n => exact wellFormed_ofNumber n
  | string s => trivial
  | array items ih =>
    rw [Json.WellFormed, Json.wellFormedItems_iff] at wellFormed
    rw [ofJson, WellFormed, ofItems_eq_map, wellFormedItems_iff, List.forall_mem_map]
    exact fun item member => ih item member (wellFormed item member)
  | object fields ih =>
    rw [Json.WellFormed, Json.wellFormedFields_iff] at wellFormed
    obtain ⟨sorted, parts⟩ := wellFormed
    rw [ofJson, WellFormed, ofFields_eq_map, wellFormedFields_iff, List.forall_mem_map]
    exact ⟨Fields.sorted_map sorted ofJson, fun field member => ih field member (parts field member)⟩

/-- The two conversions undo each other where they can. A value comes back with null in the place of every float that
is not finite, so it is the same exactly if there is none; a tree comes back with the nearest double in the place of
every integer beyond the signed range, so it is the same exactly if there is none. A tree has one value, used up or
copied, and sorted fields stay sorted in it. -/
theorem interchange_exact :
    (∀ value : Value, ofJson value.toJson = value.finitePart ∧
      (ofJson value.toJson = value ↔ ∀ x ∈ value.floats, x.isFinite = true)) ∧
    (∀ json : Json, (ofJson json).toJson = json.narrowed ∧
      ((ofJson json).toJson = json ↔ ∀ n ∈ json.integers, n < 2 ^ 63) ∧
      ∀ n ∈ json.integers, 2 ^ 63 ≤ n → (Binary64.ofInt n).IsNearest (n * (2 ^ 1074 : Nat))) ∧
    ∀ json : Json, copyOfJson json = ofJson json ∧ (json.WellFormed → (ofJson json).WellFormed) := by
  refine ⟨?_, ?_, ?_⟩
  · intro value
    exact ⟨ofJson_toJson value, ofJson_toJson_eq_self_iff value⟩
  · intro json
    exact ⟨toJson_ofJson json, toJson_ofJson_eq_self_iff json, fun n member => Json.isNearest_of_mem_integers member⟩
  · intro json
    exact ⟨copyOfJson_eq_ofJson json, wellFormed_ofJson⟩

def widest : Json :=
  .object [("a", .array [.number (.int (2 ^ 64 - 1) (by decide)), .number (.int (-1) (by decide))]),
    ("b", .number (.float (.ofSignAndRest true 0) (by decide)))]

theorem interchange_exact_widest :
    widest.WellFormed ∧ 2 ^ 64 - 1 ∈ widest.integers ∧ (2 : Int) ^ 63 ≤ 2 ^ 64 - 1 ∧
      (ofJson widest).toJson = widest.narrowed ∧ (ofJson widest).toJson ≠ widest ∧
      (Binary64.ofInt (2 ^ 64 - 1)).IsNearest ((2 ^ 64 - 1) * (2 ^ 1074 : Nat)) ∧
      copyOfJson widest = ofJson widest ∧ (ofJson widest).WellFormed := by
  have wellFormed : widest.WellFormed := by
    simp only [widest, Json.WellFormed, Json.WellFormedItems, Json.WellFormedFields, Fields.Sorted, and_true]
    decide
  have member : 2 ^ 64 - 1 ∈ widest.integers := by decide
  obtain ⟨back, same, nearest⟩ := interchange_exact.2.1 widest
  obtain ⟨copied, sorted⟩ := interchange_exact.2.2 widest
  have changed : ¬ ∀ n ∈ widest.integers, n < 2 ^ 63 := fun all => absurd (all _ member) (by decide)
  exact ⟨wellFormed, member, by decide, back, fun unchanged => changed (same.1 unchanged),
    nearest _ member (by decide), copied, sorted wellFormed⟩

end Value

end Criteria
