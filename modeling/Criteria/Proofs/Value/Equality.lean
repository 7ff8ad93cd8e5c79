import Criteria.Proofs.Value.Numerals
import Mathlib.Data.List.Forall2

/-!
Equality of values as a relation. Two values are equal if they are the same kind of node with equal parts,
or two numerics that denote the same point; the relation is symmetric and transitive, and values that
are equal to one another are equal to the same values.
-/
namespace Criteria

namespace Value

/-- What holds of scalars and passes from the parts of a list or a mapping to the whole holds of all
values. -/
@[elab_as_elim, induction_eliminator]
theorem induction {motive : Value → Prop} (scalar : ∀ value, value.isScalar = true → motive value)
    (list : ∀ items, (∀ item ∈ items, motive item) → motive (.list items))
    (map : ∀ fields, (∀ field ∈ fields, motive field.2) → motive (.map fields)) : ∀ value, motive value
  | .null => scalar _ rfl
  | .bool _ => scalar _ rfl
  | .int _ => scalar _ rfl
  | .float _ => scalar _ rfl
  | .string _ => scalar _ rfl
  | .list items => list items (fun item _ => induction scalar list map item)
  | .map fields => map fields (fun field _ => induction scalar list map field.2)
termination_by value => sizeOf value
decreasing_by
  · have smaller := List.sizeOf_lt_of_mem ‹_ ∈ items›
    simp only [Value.list.sizeOf_spec]
    omega
  · have smaller := List.sizeOf_lt_of_mem ‹_ ∈ fields›
    have inside : sizeOf field.2 < sizeOf field := by
      cases field
      simp only [Prod.mk.sizeOf_spec]
      omega
    simp only [Value.map.sizeOf_spec]
    omega

def extent? (value : Value) : Option Extent := value.numeral?.bind Numeral.extent?

@[simp] theorem extent?_null : extent? .null = none := rfl

@[simp] theorem extent?_bool (b : Bool) :
    extent? (.bool b) = some (.ofInt (if b then 1 else 0 : Int64).toInt) := rfl

@[simp] theorem extent?_int (n : Int64) : extent? (.int n) = some (.ofInt n.toInt) := rfl

@[simp] theorem extent?_float (x : Binary64) : extent? (.float x) = x.extent? := rfl

@[simp] theorem extent?_string (text : String) : extent? (.string text) = none := rfl

@[simp] theorem extent?_list (items : List Value) : extent? (.list items) = none := rfl

@[simp] theorem extent?_map (fields : Fields Value) : extent? (.map fields) = none := rfl

theorem numeric_cases {value : Value} {point : Extent} (numeric : value.extent? = some point) :
    (∃ b, value = .bool b) ∨ (∃ n, value = .int n) ∨ ∃ x, value = .float x := by
  cases value with
  | bool b => exact .inl ⟨b, rfl⟩
  | int n => exact .inr (.inl ⟨n, rfl⟩)
  | float x => exact .inr (.inr ⟨x, rfl⟩)
  | null => simp at numeric
  | string text => simp at numeric
  | list items => simp at numeric
  | map fields => simp at numeric

theorem same_iff (left right : Numeral) :
    left.same right = true ↔ ∃ point, left.extent? = some point ∧ right.extent? = some point := by
  rw [Numeral.same, Numeral.compare?_eq]
  cases left.extent? with
  | none => simp
  | some leftPoint =>
    cases right.extent? with
    | none => simp
    | some rightPoint => simp [Extent.compare_eq_iff, @eq_comm _ rightPoint]

theorem sameNumber_iff (left right : Value) :
    sameNumber left right = true ↔ ∃ point, left.extent? = some point ∧ right.extent? = some point := by
  unfold sameNumber extent?
  cases left.numeral? <;> cases right.numeral? <;> simp [same_iff]

abbrev EqualItems (lefts rights : List Value) : Prop :=
  List.Forall₂ (fun left right => left.equals right = true) lefts rights

abbrev EqualFields (lefts rights : Fields Value) : Prop :=
  List.Forall₂ (fun left right => left.1 = right.1 ∧ left.2.equals right.2 = true) lefts rights

theorem equalItems_iff (lefts rights : List Value) :
    equalItems lefts rights = true ↔ EqualItems lefts rights := by
  induction lefts generalizing rights with
  | nil => cases rights <;> simp [equalItems]
  | cons left lefts ih => cases rights <;> simp [equalItems, ih]

theorem equalFields_iff (lefts rights : Fields Value) :
    equalFields lefts rights = true ↔ EqualFields lefts rights := by
  induction lefts generalizing rights with
  | nil => cases rights <;> simp [equalFields]
  | cons left lefts ih => cases rights <;> simp [equalFields, ih]

/-- How two equal values look: nodes of one kind with equal parts, or numerics that denote one point. -/
inductive Matching : Value → Value → Prop
  | null : Matching .null .null
  | string (text : String) : Matching (.string text) (.string text)
  | list {lefts rights : List Value} (each : EqualItems lefts rights) : Matching (.list lefts) (.list rights)
  | map {lefts rights : Fields Value} (each : EqualFields lefts rights) : Matching (.map lefts) (.map rights)
  | number {left right : Value} (point : Extent) (leftPoint : left.extent? = some point)
      (rightPoint : right.extent? = some point) : Matching left right

theorem matching_of_equals {left right : Value} : left.equals right = true → Matching left right := by
  fun_cases equals left right with
  | case1 => exact fun _ => .null
  | case2 left right =>
    intro same
    obtain rfl : left = right := by simpa using same
    exact .number _ (extent?_bool left) (extent?_bool left)
  | case3 left right =>
    intro same
    obtain rfl : left = right := by simpa using same
    exact .string left
  | case4 lefts rights => exact fun same => .list ((equalItems_iff lefts rights).1 same)
  | case5 lefts rights => exact fun same => .map ((equalFields_iff lefts rights).1 same)
  | case6 =>
    intro same
    obtain ⟨point, leftPoint, rightPoint⟩ := (sameNumber_iff left right).1 same
    exact .number point leftPoint rightPoint

theorem extent?_bool_inj {left right : Bool} (same : extent? (.bool left) = extent? (.bool right)) :
    left = right := by
  rw [extent?_bool, extent?_bool] at same
  have counts := Extent.ofInt_inj (Option.some.inj same)
  cases left <;> cases right <;> simp at counts ⊢

theorem equals_of_extent {left right : Value} {point : Extent} (leftPoint : left.extent? = some point)
    (rightPoint : right.extent? = some point) : left.equals right = true := by
  fun_cases equals left right with
  | case1 => rfl
  | case2 left right => exact beq_iff_eq.2 (extent?_bool_inj (leftPoint.trans rightPoint.symm))
  | case3 => simp at leftPoint
  | case4 => simp at leftPoint
  | case5 => simp at leftPoint
  | case6 => exact (sameNumber_iff left right).2 ⟨point, leftPoint, rightPoint⟩

theorem equals_symm {left right : Value} (same : left.equals right = true) :
    right.equals left = true := by
  induction left generalizing right with
  | scalar left isScalar =>
    cases matching_of_equals same with
    | null => rfl
    | string text => exact same
    | list each => cases isScalar
    | map each => cases isScalar
    | number point leftPoint rightPoint => exact equals_of_extent rightPoint leftPoint
  | list lefts ih =>
    cases matching_of_equals same with
    | number point leftPoint rightPoint => simp at leftPoint
    | list each =>
      have turned := ((List.forall₂_and_left _ _).2 ⟨ih, each⟩).imp (fun _ _ pair => pair.1 pair.2)
      exact (equalItems_iff _ _).2 turned.flip
  | map lefts ih =>
    cases matching_of_equals same with
    | number point leftPoint rightPoint => simp at leftPoint
    | map each =>
      have turned := ((List.forall₂_and_left _ _).2 ⟨ih, each⟩).imp
        (fun _ _ pair => And.intro pair.2.1.symm (pair.1 pair.2.2))
      exact (equalFields_iff _ _).2 turned.flip

theorem forall₂_compose {α : Type} {relation : α → α → Prop} {lefts middles rights : List α}
    (compose : ∀ left ∈ lefts, ∀ middle right, relation left middle → relation middle right →
      relation left right)
    (first : List.Forall₂ relation lefts middles) (second : List.Forall₂ relation middles rights) :
    List.Forall₂ relation lefts rights := by
  induction first generalizing rights with
  | nil => exact second
  | cons head tail ih =>
    cases second with
    | cons otherHead otherTail =>
      refine .cons (compose _ List.mem_cons_self _ _ head otherHead) (ih ?_ otherTail)
      exact fun left member => compose left (List.mem_cons_of_mem _ member)

theorem equals_trans {left middle right : Value} (first : left.equals middle = true)
    (second : middle.equals right = true) : left.equals right = true := by
  induction left generalizing middle right with
  | scalar left isScalar =>
    cases matching_of_equals first with
    | null => exact second
    | string text => exact second
    | list each => cases isScalar
    | map each => cases isScalar
    | number point leftPoint middlePoint =>
      cases matching_of_equals second with
      | null => simp at middlePoint
      | string text => simp at middlePoint
      | list each => simp at middlePoint
      | map each => simp at middlePoint
      | number other otherPoint rightPoint =>
        obtain rfl : point = other := Option.some.inj (middlePoint.symm.trans otherPoint)
        exact equals_of_extent leftPoint rightPoint
  | list lefts ih =>
    cases matching_of_equals first with
    | number point leftPoint middlePoint => simp at leftPoint
    | list each =>
      cases matching_of_equals second with
      | number point middlePoint rightPoint => simp at middlePoint
      | list others =>
        refine (equalItems_iff _ _).2 (forall₂_compose ?_ each others)
        exact fun item member _ _ one two => ih item member one two
  | map lefts ih =>
    cases matching_of_equals first with
    | number point leftPoint middlePoint => simp at leftPoint
    | map each =>
      cases matching_of_equals second with
      | number point middlePoint rightPoint => simp at middlePoint
      | map others =>
        refine (equalFields_iff _ _).2 (forall₂_compose ?_ each others)
        exact fun field member _ _ one two => ⟨one.1.trans two.1, ih field member one.2 two.2⟩

theorem equals_congr {left left' right right' : Value} (lefts : left.equals left' = true)
    (rights : right.equals right' = true) : left.equals right = left'.equals right' := by
  refine Bool.eq_iff_iff.2 ⟨fun same => ?_, fun same => ?_⟩
  · exact equals_trans (equals_symm lefts) (equals_trans same rights)
  · exact equals_trans lefts (equals_trans same (equals_symm rights))

end Value

end Criteria
