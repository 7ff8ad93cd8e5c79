import Criteria.Proofs.Binary64.Finite
import Criteria.Proofs.Value.Equality
import Criteria.Value.Interchange

/-!
Values as JSON and back. Going to JSON and back replaces every float that is not finite by null and
changes nothing else, so it leads to an equal value exactly if all floats are finite. Coming from JSON
gives finite floats only, and going back from there gives the same tree exactly if no integer lies beyond
the signed range.
-/
namespace Criteria

theorem map_eq_self_iff {α : Type} (change : α → α) (items : List α) :
    items.map change = items ↔ ∀ item ∈ items, change item = item := by
  conv_lhs => rhs; rw [← List.map_id items]
  exact List.map_inj_left

namespace Json

/-- What holds of plain trees and passes from the parts of an array or an object to the whole holds of all
trees. -/
@[elab_as_elim, induction_eliminator]
theorem induction {motive : Json → Prop} (null : motive .null) (bool : ∀ b, motive (.bool b))
    (number : ∀ n, motive (.number n)) (string : ∀ s, motive (.string s))
    (array : ∀ items, (∀ item ∈ items, motive item) → motive (.array items))
    (object : ∀ fields, (∀ field ∈ fields, motive field.2) → motive (.object fields)) : ∀ json, motive json
  | .null => null
  | .bool b => bool b
  | .number n => number n
  | .string s => string s
  | .array items => array items (fun item _ => induction null bool number string array object item)
  | .object fields => object fields (fun field _ => induction null bool number string array object field.2)
termination_by json => sizeOf json
decreasing_by
  · have smaller := List.sizeOf_lt_of_mem ‹_ ∈ items›
    simp only [Json.array.sizeOf_spec]
    omega
  · have smaller := List.sizeOf_lt_of_mem ‹_ ∈ fields›
    have inside : sizeOf field.2 < sizeOf field := by
      cases field
      simp only [Prod.mk.sizeOf_spec]
      omega
    simp only [Json.object.sizeOf_spec]
    omega

mutual

def integers : Json → List Int
  | .number (.int n _) => [n]
  | .array items => integersOfItems items
  | .object fields => integersOfFields fields
  | _ => []

def integersOfItems : List Json → List Int
  | [] => []
  | item :: rest => integers item ++ integersOfItems rest

def integersOfFields : Fields Json → List Int
  | [] => []
  | (_, value) :: rest => integers value ++ integersOfFields rest

end

@[simp] theorem integers_array (items : List Json) : integers (.array items) = items.flatMap integers := by
  rw [integers]
  exact eq_flatMap_of_cons rfl (fun _ _ => rfl) items

@[simp] theorem integers_object (fields : Fields Json) :
    integers (.object fields) = fields.flatMap (fun field => field.2.integers) := by
  rw [integers]
  exact eq_flatMap_of_cons rfl (fun _ _ => rfl) fields

end Json

namespace Value

mutual

def floats : Value → List Binary64
  | .float x => [x]
  | .list items => floatsOfItems items
  | .map fields => floatsOfFields fields
  | _ => []

def floatsOfItems : List Value → List Binary64
  | [] => []
  | item :: rest => floats item ++ floatsOfItems rest

def floatsOfFields : Fields Value → List Binary64
  | [] => []
  | (_, value) :: rest => floats value ++ floatsOfFields rest

end

@[simp] theorem floats_list (items : List Value) : floats (.list items) = items.flatMap floats := by
  rw [floats]
  exact eq_flatMap_of_cons rfl (fun _ _ => rfl) items

@[simp] theorem floats_map (fields : Fields Value) :
    floats (.map fields) = fields.flatMap (fun field => field.2.floats) := by
  rw [floats]
  exact eq_flatMap_of_cons rfl (fun _ _ => rfl) fields

mutual

/-- The value with null in the place of every float that is not finite. -/
def finitePart : Value → Value
  | .float x => if x.isFinite then .float x else .null
  | .list items => .list (finiteItems items)
  | .map fields => .map (finiteFields fields)
  | value => value

def finiteItems : List Value → List Value
  | [] => []
  | item :: rest => finitePart item :: finiteItems rest

def finiteFields : Fields Value → Fields Value
  | [] => []
  | (name, value) :: rest => (name, finitePart value) :: finiteFields rest

end

theorem finiteItems_eq_map (items : List Value) : finiteItems items = items.map finitePart :=
  eq_map_of_cons rfl (fun _ _ => rfl) items

theorem finiteFields_eq_map (fields : Fields Value) :
    finiteFields fields = fields.map (fun field => (field.1, field.2.finitePart)) :=
  eq_map_of_cons rfl (fun _ _ => rfl) fields

theorem ofItems_eq_map (items : List Json) : ofItems items = items.map ofJson :=
  eq_map_of_cons rfl (fun _ _ => rfl) items

theorem ofFields_eq_map (fields : Fields Json) :
    ofFields fields = fields.map (fun field => (field.1, ofJson field.2)) :=
  eq_map_of_cons rfl (fun _ _ => rfl) fields

theorem toItems_eq_map (items : List Value) : toItems items = items.map toJson :=
  eq_map_of_cons rfl (fun _ _ => rfl) items

theorem toFields_eq_map (fields : Fields Value) :
    toFields fields = fields.map (fun field => (field.1, field.2.toJson)) :=
  eq_map_of_cons rfl (fun _ _ => rfl) fields

/-- Going to JSON and back loses exactly the floats that are not finite. -/
theorem ofJson_toJson (value : Value) : ofJson value.toJson = value.finitePart := by
  induction value with
  | scalar value isScalar =>
    cases value with
    | null => rfl
    | bool b => rfl
    | string s => rfl
    | list items => cases isScalar
    | map fields => cases isScalar
    | int n =>
      have signed : n.toInt < 2 ^ 63 := n.toInt_lt
      simp only [toJson, ofJson, ofNumber, if_pos signed, Int64.ofInt_toInt, finitePart]
    | float x => by_cases finite : x.isFinite = true <;> simp [toJson, ofJson, ofNumber, finitePart, finite]
  | list items ih =>
    rw [toJson, ofJson, finitePart, toItems_eq_map, ofItems_eq_map, finiteItems_eq_map, List.map_map]
    exact congrArg Value.list (List.map_congr_left ih)
  | map fields ih =>
    rw [toJson, ofJson, finitePart, toFields_eq_map, ofFields_eq_map, finiteFields_eq_map, List.map_map]
    refine congrArg Value.map (List.map_congr_left ?_)
    exact fun field member => congrArg (Prod.mk field.1) (ih field member)

theorem finitePart_eq_self {value : Value} (finite : ∀ x ∈ value.floats, x.isFinite = true) :
    value.finitePart = value := by
  induction value with
  | scalar value isScalar =>
    cases value with
    | float x => exact if_pos (finite x List.mem_cons_self)
    | list items => cases isScalar
    | map fields => cases isScalar
    | null => rfl
    | bool b => rfl
    | int n => rfl
    | string s => rfl
  | list items ih =>
    rw [floats_list, List.forall_mem_flatMap] at finite
    rw [finitePart, finiteItems_eq_map, (map_eq_self_iff _ _).2]
    exact fun item member => ih item member (finite item member)
  | map fields ih =>
    rw [floats_map, List.forall_mem_flatMap] at finite
    rw [finitePart, finiteFields_eq_map, (map_eq_self_iff _ _).2]
    exact fun field member => congrArg (Prod.mk field.1) (ih field member (finite field member))

theorem finitePart_equals_iff (value : Value) :
    value.finitePart.equals value = true ↔ ∀ x ∈ value.floats, x.isFinite = true := by
  induction value with
  | scalar value isScalar =>
    cases value with
    | float x =>
      by_cases finite : x.isFinite = true
      · have denotes := (extent?_float x).trans (Binary64.extent?_of_isFinite finite)
        simp [finitePart, floats, finite, equals_of_extent denotes denotes]
      · simp [finitePart, floats, finite, equals, sameNumber, numeral?]
    | int n => simp [finitePart, floats, equals_of_extent (extent?_int n) (extent?_int n)]
    | bool b => simp [finitePart, floats, equals_of_extent (extent?_bool b) (extent?_bool b)]
    | null => simp [finitePart, floats, equals]
    | string s => simp [finitePart, floats, equals]
    | list items => cases isScalar
    | map fields => cases isScalar
  | list items ih =>
    rw [finitePart, equals, equalItems_iff, finiteItems_eq_map, EqualItems, List.forall₂_map_left_iff,
      List.forall₂_same, floats_list, List.forall_mem_flatMap]
    exact forall₂_congr ih
  | map fields ih =>
    rw [finitePart, equals, equalFields_iff, finiteFields_eq_map, EqualFields, List.forall₂_map_left_iff,
      List.forall₂_same, floats_map, List.forall_mem_flatMap]
    simp only [true_and]
    exact forall₂_congr ih

theorem floats_ofNumber (n : Json.Number) : ∀ x ∈ (ofNumber n).floats, x.isFinite = true := by
  cases n with
  | float x finite => simpa [ofNumber, floats] using finite
  | int n inRange =>
    rw [ofNumber]
    split
    · simp [floats]
    · have rounded := Binary64.isFinite_ofInt (n := n) (by omega) inRange.2
      simpa [floats] using rounded

theorem floats_ofJson (json : Json) : ∀ x ∈ (ofJson json).floats, x.isFinite = true := by
  induction json with
  | null => simp [ofJson, floats]
  | bool b => simp [ofJson, floats]
  | number n => exact floats_ofNumber n
  | string s => simp [ofJson, floats]
  | array items ih =>
    rw [ofJson, ofItems_eq_map, floats_list, List.forall_mem_flatMap, List.forall_mem_map]
    exact ih
  | object fields ih =>
    rw [ofJson, ofFields_eq_map, floats_map, List.forall_mem_flatMap, List.forall_mem_map]
    exact ih

theorem toJson_ofNumber_eq_self_iff (n : Json.Number) :
    (ofNumber n).toJson = .number n ↔ ∀ m ∈ (Json.number n).integers, m < 2 ^ 63 := by
  cases n with
  | float x finite => simp [ofNumber, toJson, finite, Json.integers]
  | int n inRange =>
    rw [ofNumber, Json.integers, List.forall_mem_singleton]
    split
    · rename_i signed
      have same : (Int64.ofInt n).toInt = n := Int64.toInt_ofInt_of_le inRange.1 signed
      simpa [toJson, same] using signed
    · rename_i large
      have rounded := Binary64.isFinite_ofInt (by omega) inRange.2
      simpa [toJson, rounded] using large

theorem toJson_ofJson_eq_self_iff (json : Json) :
    (ofJson json).toJson = json ↔ ∀ n ∈ json.integers, n < 2 ^ 63 := by
  induction json with
  | null => simp [ofJson, toJson, Json.integers]
  | bool b => simp [ofJson, toJson, Json.integers]
  | number n => exact toJson_ofNumber_eq_self_iff n
  | string s => simp [ofJson, toJson, Json.integers]
  | array items ih =>
    rw [ofJson, ofItems_eq_map, toJson, toItems_eq_map, List.map_map, Json.array.injEq, map_eq_self_iff,
      Json.integers_array, List.forall_mem_flatMap]
    exact forall₂_congr ih
  | object fields ih =>
    rw [ofJson, ofFields_eq_map, toJson, toFields_eq_map, List.map_map, Json.object.injEq, map_eq_self_iff,
      Json.integers_object, List.forall_mem_flatMap]
    refine forall₂_congr ?_
    intro field member
    rw [← ih field member]
    exact ⟨fun same => congrArg Prod.snd same, fun same => congrArg (Prod.mk field.1) same⟩

end Value

end Criteria
