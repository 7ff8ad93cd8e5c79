import Criteria.Proofs.Condition.Acceptance
import Criteria.Proofs.RuleSet.Building

/-!
The grammar of descriptions. A set is built from exactly the trees of a grammar that is given without the
builder: an object with one logic over a list, whose elements are again such objects or else describe a
condition. What is built has the shape of the tree, node for node.
-/
namespace Criteria

def Logic.NamedBy (logic : Logic) (key : String) : Prop :=
  key.toList.map Char.toLower = logic.name.toList

def Json.NamesLogic (json : Json) : Prop :=
  ∃ (logic : Logic) (key : String) (operands : Json), json = .object [(key, operands)] ∧ logic.NamedBy key

def Json.DescribesCondition (json : Json) : Prop :=
  ∃ fields, json = .object fields ∧ Condition.Description fields

inductive Json.DescribesSet : Json → Prop
  | set {logic : Logic} {key : String} {items : List Json} (named : logic.NamedBy key)
      (sets : ∀ item ∈ items, item.NamesLogic → DescribesSet item)
      (conditions : ∀ item ∈ items, ¬ item.NamesLogic → item.DescribesCondition) :
      DescribesSet (.object [(key, .array items)])

mutual

/-- How many conditions a description holds: everything that names no logic is one. -/
def Json.conditionCount : Json → Nat
  | .object [(key, operands)] =>
    if (Logic.ofName? key).isSome then conditionCountOfOperands operands else 1
  | _ => 1

def Json.conditionCountOfOperands : Json → Nat
  | .array items => conditionCountOfItems items
  | _ => 0

def Json.conditionCountOfItems : List Json → Nat
  | [] => 0
  | item :: rest => conditionCount item + conditionCountOfItems rest

end

/-- A rule has the shape of a tree: the same logics over the same lists, and for every condition the
attribute, the operator, the reference and the negation that the tree gives or leaves to be filled in. -/
inductive Rule.Mirrors : Rule → Json → Prop
  | leaf {condition : Condition} {fields : Fields Json} (described : condition.DescribedBy fields) :
      Mirrors (.leaf condition) (.object fields)
  | node {logic : Logic} {children : List Rule} {key : String} {items : List Json}
      (named : logic.NamedBy key) (each : List.Forall₂ Mirrors children items) :
      Mirrors (.node logic children) (.object [(key, .array items)])

theorem forall₂_of_exists {α β : Type} {relation : α → β → Prop} {lefts : List α}
    (each : ∀ left ∈ lefts, ∃ right, relation left right) :
    ∃ rights, List.Forall₂ relation lefts rights := by
  induction lefts with
  | nil => exact ⟨[], .nil⟩
  | cons left rest ih =>
    obtain ⟨right, head⟩ := each left List.mem_cons_self
    obtain ⟨rights, tail⟩ := ih (fun other member => each other (List.mem_cons_of_mem _ member))
    exact ⟨right :: rights, .cons head tail⟩

theorem Json.DescribesCondition.not_namesLogic {json : Json} (describes : json.DescribesCondition) :
    ¬ json.NamesLogic := by
  obtain ⟨fields, rfl, description⟩ := describes
  intro names
  obtain ⟨logic, key, operands, same, -⟩ := names
  obtain ⟨condition, described⟩ := (Condition.exists_describedBy_iff fields).2 description
  rw [Json.object.inj same] at described
  exact described.not_single

theorem Json.DescribesSet.namesLogic {json : Json} (describes : json.DescribesSet) : json.NamesLogic := by
  cases describes with
  | set named => exact ⟨_, _, _, rfl, named⟩

namespace Rule

theorem exists_leaf_iff (json : Json) :
    (∃ condition, ofJson json = .ok (.leaf condition)) ↔ json.DescribesCondition := by
  simp only [ofJson_eq_leaf_iff, Json.DescribesCondition, ← Condition.exists_describedBy_iff]
  constructor
  · intro built
    obtain ⟨condition, fields, same, described⟩ := built
    exact ⟨fields, same, condition, described⟩
  · intro describes
    obtain ⟨fields, same, condition, described⟩ := describes
    exact ⟨condition, fields, same, described⟩

theorem exists_node_of_describesSet {json : Json} (describes : json.DescribesSet) :
    ∃ logic children, ofJson json = .ok (.node logic children) := by
  induction describes with
  | @set logic key items named sets conditions ih =>
    have each : ∀ item ∈ items, ∃ child, ofJson item = .ok child := by
      intro item member
      -- An element that names a logic is a set or nothing; any other is a condition.
      by_cases names : item.NamesLogic
      · obtain ⟨inner, children, built⟩ := ih item member names
        exact ⟨_, built⟩
      · obtain ⟨condition, built⟩ := (exists_leaf_iff item).2 (conditions item member names)
        exact ⟨_, built⟩
    obtain ⟨children, built⟩ := forall₂_of_exists each
    refine ⟨logic, children, (ofJson_eq_node_iff _ _ _).2 ⟨key, items, rfl, ?_, built⟩⟩
    exact (Logic.ofName?_eq_some_iff key logic).2 named

theorem describes_of_built {json : Json} {rule : Rule} (built : ofJson json = .ok rule) :
    (json.NamesLogic → json.DescribesSet) ∧ (¬ json.NamesLogic → json.DescribesCondition) := by
  induction rule generalizing json with
  | leaf condition =>
    have describes := (exists_leaf_iff json).1 ⟨condition, built⟩
    exact ⟨fun names => absurd names describes.not_namesLogic, fun _ => describes⟩
  | node logic children ih =>
    obtain ⟨key, items, rfl, word, each⟩ := (ofJson_eq_node_iff _ _ _).1 built
    have named : logic.NamedBy key := (Logic.ofName?_eq_some_iff key logic).1 word
    have inside : ∀ item ∈ items, (item.NamesLogic → item.DescribesSet) ∧
        (¬ item.NamesLogic → item.DescribesCondition) := by
      intro item member
      obtain ⟨child, held, head⟩ := exists_mem_of_forall₂ each item member
      exact ih child held head
    have describes : Json.DescribesSet (.object [(key, .array items)]) :=
      .set named (fun item member => (inside item member).1) (fun item member => (inside item member).2)
    exact ⟨fun _ => describes, fun absent => absurd describes.namesLogic absent⟩

theorem forall₂_iff_of_mem {α β : Type} {relation other : α → β → Prop} {lefts : List α} {rights : List β}
    (agree : ∀ left ∈ lefts, ∀ right, relation left right ↔ other left right) :
    List.Forall₂ relation lefts rights ↔ List.Forall₂ other lefts rights := by
  induction lefts generalizing rights with
  | nil => simp
  | cons left rest ih =>
    have tail (others : List β) : List.Forall₂ relation rest others ↔ List.Forall₂ other rest others :=
      ih (fun item member => agree item (List.mem_cons_of_mem _ member))
    simp only [List.forall₂_cons_left_iff, agree left List.mem_cons_self, tail]

/-- A rule is built from a tree exactly if it has the shape of the tree. -/
theorem ofJson_eq_ok_iff_mirrors (json : Json) (rule : Rule) :
    ofJson json = .ok rule ↔ rule.Mirrors json := by
  induction rule generalizing json with
  | leaf condition =>
    rw [ofJson_eq_leaf_iff]
    constructor
    · intro built
      obtain ⟨fields, rfl, described⟩ := built
      exact .leaf described
    · intro mirrors
      cases mirrors with
      | leaf described => exact ⟨_, rfl, described⟩
  | node logic children ih =>
    have each (items : List Json) :
        List.Forall₂ (fun item child => ofJson item = .ok child) items children ↔
          List.Forall₂ Mirrors children items := by
      rw [← forall₂_iff_of_mem (fun child member item => ih child member item)]
      exact ⟨List.Forall₂.flip, List.Forall₂.flip⟩
    rw [ofJson_eq_node_iff]
    simp only [each]
    constructor
    · intro built
      obtain ⟨key, items, rfl, word, inside⟩ := built
      exact .node ((Logic.ofName?_eq_some_iff key logic).1 word) inside
    · intro mirrors
      cases mirrors with
      | node named inside => exact ⟨_, _, rfl, (Logic.ofName?_eq_some_iff _ logic).2 named, inside⟩

theorem conditionCount_of_not_single {fields : Fields Json}
    (notSingle : ∀ key operands, fields ≠ [(key, operands)]) : (Json.object fields).conditionCount = 1 := by
  rw [Json.conditionCount]
  simpa using notSingle

theorem conditionCountOfItems_eq {children : List Rule} {items : List Json}
    (each : List.Forall₂ Mirrors children items)
    (agree : ∀ child ∈ children, ∀ item, child.Mirrors item → child.count = item.conditionCount) :
    countAll children = Json.conditionCountOfItems items := by
  induction each with
  | nil => rfl
  | cons head tail ih =>
    have rest := ih (fun child member => agree child (List.mem_cons_of_mem _ member))
    rw [countAll, Json.conditionCountOfItems, agree _ List.mem_cons_self _ head, rest]

theorem Mirrors.count_eq {rule : Rule} {json : Json} (mirrors : rule.Mirrors json) :
    rule.count = json.conditionCount := by
  induction rule generalizing json with
  | leaf condition =>
    cases mirrors with
    | @leaf _ fields described =>
      have notSingle : ∀ key operands, fields ≠ [(key, operands)] := by
        intro key operands single
        exact (single ▸ described).not_single
      rw [count, conditionCount_of_not_single notSingle]
  | node logic children ih =>
    cases mirrors with
    | node named each =>
      have word := (Logic.ofName?_eq_some_iff _ logic).2 named
      rw [count, Json.conditionCount, word, Option.isSome_some, if_pos rfl, Json.conditionCountOfOperands]
      exact conditionCountOfItems_eq each (fun child member item => ih child member)

end Rule

/-- Exactly the described sets are built, each as its description says. -/
theorem RuleSet.ofJson_accepts_descriptions (json : Json) :
    ((∃ rules, ofJson json = .ok rules) ↔ json.DescribesSet) ∧
      ∀ rules, (ofJson json = .ok rules ↔ rules.toRule.Mirrors json) ∧
        (ofJson json = .ok rules → rules.count = json.conditionCount) := by
  have mirrors (rules : RuleSet) : ofJson json = .ok rules ↔ rules.toRule.Mirrors json := by
    rw [ofJson_eq_ok_iff, Rule.ofJson_eq_ok_iff_mirrors]
  refine ⟨⟨?_, ?_⟩, fun rules => ⟨mirrors rules, fun built => ((mirrors rules).1 built).count_eq⟩⟩
  · intro accepted
    obtain ⟨rules, built⟩ := accepted
    have names : json.NamesLogic := by
      cases (mirrors rules).1 built with
      | node named each => exact ⟨_, _, _, rfl, named⟩
    exact (Rule.describes_of_built ((ofJson_eq_ok_iff _ _).1 built)).1 names
  · intro describes
    obtain ⟨logic, children, built⟩ := Rule.exists_node_of_describesSet describes
    exact ⟨⟨logic, children⟩, (ofJson_eq_ok_iff _ _).2 built⟩

end Criteria
