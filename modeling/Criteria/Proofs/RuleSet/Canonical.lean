import Criteria.Proofs.RuleSet.Rebuilding

/-!
Canonical descriptions. Describing a set that was built from a tree gives the canonical tree for that set:
the set is built from it again exactly as it was, and the tree itself is reproduced exactly if its logics
are written in lower case and its conditions leave nothing to be filled in or rounded.
-/
namespace Criteria

theorem Logic.name_eq_iff {key : String} {logic : Logic} (named : ofName? key = some logic) :
    logic.name = key ↔ ∀ letter ∈ key.toList, letter.isUpper = false := by
  constructor
  · intro same
    rw [← same]
    cases logic <;> simp [name]
  · intro lower
    have unchanged : key.toList.map Char.toLower = key.toList := by
      rw [map_eq_self_iff]
      intro letter member
      apply dif_neg
      exact of_decide_eq_false (lower letter member)
    rw [ofName?_eq_some_iff, unchanged] at named
    exact String.toList_inj.1 named.symm

namespace Condition

/-- The fields of a condition that name the operator, mention a negation only if there is one, and hold no
integer beyond the signed range. -/
structure CanonicalFields (fields : Fields Json) : Prop where
  operator : Fields.has "op" fields = true
  negation : ∀ given, Fields.get? "negate" fields = some given → given = .bool true
  integers : ∀ value, Fields.get? "value" fields = some value → ∀ n ∈ value.integers, n < 2 ^ 63

theorem DescribedBy.described_eq_iff {condition : Condition} {fields : Fields Json}
    (describes : condition.DescribedBy fields) (sorted : Fields.Sorted fields) :
    condition.described = fields ↔ CanonicalFields fields := by
  obtain ⟨value, present, reference⟩ := describes.value
  have unrounded : Fields.get? "value" fields = some condition.reference.toJson ↔
      ∀ n ∈ value.integers, n < 2 ^ 63 := by
    rw [present, reference, Option.some.injEq, eq_comm, Value.toJson_ofJson_eq_self_iff]
  rw [Condition.described_eq_iff sorted describes.keys, unrounded]
  constructor
  · intro same
    obtain ⟨-, operator, integers, negation⟩ := same
    refine ⟨by rw [Fields.has, operator]; rfl, ?_, ?_⟩
    · intro given mentioned
      rw [mentioned] at negation
      cases negated : condition.negated <;> simp_all
    · intro other found
      rw [present, Option.some.injEq] at found
      rw [← found]
      exact integers
  · intro canonical
    refine ⟨describes.subject, ?_, canonical.integers value present, ?_⟩
    · apply describes.operator.resolve_right
      intro absent
      have named := canonical.operator
      rw [Fields.has, absent.1] at named
      cases named
    · rcases describes.negation with mentioned | absent
      · have negated : condition.negated = true := by simpa using canonical.negation _ mentioned
        rw [mentioned, negated]
        rfl
      · rw [absent.1, absent.2]
        rfl

end Condition

namespace Rule

mutual

/-- A tree of a rule in canonical form: every logic is in lower case and every condition is spelled out. -/
def Canonical : Json → Prop
  | .object [(key, operands)] =>
    (∀ letter ∈ key.toList, letter.isUpper = false) ∧ CanonicalOperands operands
  | .object fields => Condition.CanonicalFields fields
  | _ => False

def CanonicalOperands : Json → Prop
  | .array items => CanonicalItems items
  | _ => False

def CanonicalItems : List Json → Prop
  | [] => True
  | item :: rest => Canonical item ∧ CanonicalItems rest

end

theorem canonical_object_of_not_single {fields : Fields Json}
    (notSingle : ∀ key operands, fields ≠ [(key, operands)]) :
    Canonical (.object fields) ↔ Condition.CanonicalFields fields := by
  rw [Canonical]
  exact notSingle

theorem finiteReferences_of_built {json : Json} {rule : Rule} (built : ofJson json = .ok rule) :
    rule.FiniteReferences := by
  induction rule generalizing json with
  | leaf condition =>
    obtain ⟨fields, -, describes⟩ := (ofJson_eq_leaf_iff _ _).1 built
    obtain ⟨value, -, reference⟩ := describes.value
    rw [finiteReferences_leaf, reference]
    exact Value.floats_ofJson value
  | node logic children ih =>
    obtain ⟨key, items, -, -, each⟩ := (ofJson_eq_node_iff _ _ _).1 built
    rw [finiteReferences_node]
    intro child member
    obtain ⟨item, head⟩ := exists_of_forall₂ each.flip child member
    exact ih child member head

theorem toItems_eq_iff_canonical {items : List Json} {children : List Rule}
    (each : List.Forall₂ (fun item child => ofJson item = .ok child) items children)
    (wellFormed : Json.WellFormedItems items)
    (agree : ∀ child ∈ children, ∀ item : Json, item.WellFormed → ofJson item = .ok child →
      (child.toJson = item ↔ Canonical item)) :
    toItems children = items ↔ CanonicalItems items := by
  induction each with
  | nil => simp [toItems, CanonicalItems]
  | cons head tail ih =>
    obtain ⟨headWellFormed, tailWellFormed⟩ := wellFormed
    have rest := ih tailWellFormed (fun child member => agree child (List.mem_cons_of_mem _ member))
    rw [toItems, CanonicalItems, List.cons.injEq, agree _ List.mem_cons_self _ headWellFormed head, rest]

/-- A description of a rule is reproduced exactly if it is canonical. -/
theorem toJson_eq_iff_canonical {json : Json} {rule : Rule} (wellFormed : json.WellFormed)
    (built : ofJson json = .ok rule) : rule.toJson = json ↔ Canonical json := by
  induction rule generalizing json with
  | leaf condition =>
    obtain ⟨fields, same, describes⟩ := (ofJson_eq_leaf_iff _ _).1 built
    subst same
    have notSingle : ∀ key operands, fields ≠ [(key, operands)] := by
      intro key operands single
      rw [single] at describes
      exact describes.not_single
    rw [canonical_object_of_not_single notSingle, toJson, Condition.toJson_eq_object, Json.object.injEq]
    exact describes.described_eq_iff wellFormed.1
  | node logic children ih =>
    obtain ⟨key, items, same, named, each⟩ := (ofJson_eq_node_iff _ _ _).1 built
    subst same
    have operands : toItems children = items ↔ CanonicalItems items :=
      toItems_eq_iff_canonical each wellFormed.2.1 (fun child member _ => ih child member)
    rw [Canonical, CanonicalOperands, ← operands, ← Logic.name_eq_iff named, toJson]
    simp

end Rule

namespace RuleSet

/-- Describing a set that was built from a tree gives a tree from which the same set is built, and this is
the tree that one started from exactly if that was canonical. -/
theorem canonical_form {json : Json} {rules : RuleSet} (wellFormed : json.WellFormed)
    (built : ofJson json = .ok rules) :
    ofJson rules.toJson = .ok rules ∧ (rules.toJson = json ↔ Rule.Canonical json) := by
  rw [ofJson_eq_ok_iff] at built
  constructor
  · rw [ofJson_eq_ok_iff]
    exact Rule.ofJson_toJson (Rule.finiteReferences_of_built built)
  · exact Rule.toJson_eq_iff_canonical wellFormed built

def loud : Json := .object [("AND", .array [.object [("attr", .string "b"), ("value", .bool true)]])]

def quiet : RuleSet :=
  .all [.leaf ⟨⟨"b", by decide⟩, .eq, .bool true, false, .equal (.bool true), rfl, rfl, rfl⟩]

theorem canonical_form_loud :
    loud.WellFormed ∧ ofJson loud = .ok quiet ∧
      ofJson quiet.toJson = .ok quiet ∧ (quiet.toJson = loud ↔ Rule.Canonical loud) := by
  have wellFormed : loud.WellFormed := by
    simp only [loud, Json.WellFormed, Json.WellFormedItems, Json.WellFormedFields, Fields.Sorted, and_true]
    decide
  have built : ofJson loud = .ok quiet := by rfl
  exact ⟨wellFormed, built, canonical_form wellFormed built⟩

end RuleSet

end Criteria
