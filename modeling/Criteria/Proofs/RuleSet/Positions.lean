import Criteria.RuleSet.Basic
import Mathlib.Data.List.Basic

/-!
Where conditions stand inside a rule. A position says which rule to take at every set on the way down,
the conditions with their positions are listed from left to right, and that list holds every condition
of the rule exactly once, in the order of the positions.
-/
namespace Criteria.Rule

/-- What holds of conditions and passes from the rules of a set to the set holds of all rules. -/
@[elab_as_elim, induction_eliminator]
theorem induction {motive : Rule → Prop} (leaf : ∀ condition, motive (.leaf condition))
    (node : ∀ logic children, (∀ child ∈ children, motive child) → motive (.node logic children)) :
    ∀ rule, motive rule
  | .leaf condition => leaf condition
  | .node logic children => node logic children (fun child _ => induction leaf node child)

/-- Which rule to take at every set on the way down. -/
abbrev Position := List Nat

def at? : Position → Rule → Option Rule
  | [], rule => some rule
  | turn :: below, .node _ children => (children[turn]?).bind (at? below)
  | _ :: _, .leaf _ => none

@[simp] theorem at?_nil (rule : Rule) : at? [] rule = some rule := rfl

@[simp] theorem at?_cons_leaf (turn : Nat) (below : Position) (condition : Condition) :
    at? (turn :: below) (.leaf condition) = none := rfl

@[simp] theorem at?_cons_node (turn : Nat) (below : Position) (logic : Logic) (children : List Rule) :
    at? (turn :: below) (.node logic children) = (children[turn]?).bind (at? below) := rfl

def under (turn : Nat) (leaf : Position × Condition) : Position × Condition := (turn :: leaf.1, leaf.2)

mutual

def leaves : Rule → List (Position × Condition)
  | .leaf condition => [([], condition)]
  | .node _ children => leavesFrom 0 children

def leavesFrom (turn : Nat) : List Rule → List (Position × Condition)
  | [] => []
  | rule :: rest => (leaves rule).map (under turn) ++ leavesFrom (turn + 1) rest

end

@[simp] theorem leaves_leaf (condition : Condition) : leaves (.leaf condition) = [([], condition)] := by
  rw [leaves]

@[simp] theorem leaves_node (logic : Logic) (children : List Rule) :
    leaves (.node logic children) = leavesFrom 0 children := by
  rw [leaves]

@[simp] theorem leavesFrom_nil (turn : Nat) : leavesFrom turn [] = [] := by
  rw [leavesFrom]

@[simp] theorem leavesFrom_cons (turn : Nat) (rule : Rule) (rest : List Rule) :
    leavesFrom turn (rule :: rest) = (leaves rule).map (under turn) ++ leavesFrom (turn + 1) rest := by
  rw [leavesFrom]

theorem mem_leavesFrom_iff (first : Nat) (children : List Rule) (position : Position)
    (condition : Condition) :
    (position, condition) ∈ leavesFrom first children ↔
      ∃ turn child below, children[turn]? = some child ∧ position = (first + turn) :: below ∧
        (below, condition) ∈ leaves child := by
  induction children generalizing first with
  | nil => simp
  | cons rule rest ih =>
    rw [leavesFrom_cons, List.mem_append, ih (first + 1)]
    constructor
    · rintro (here | ⟨turn, child, below, found, stands, member⟩)
      · obtain ⟨leaf, member, same⟩ := List.mem_map.1 here
        obtain ⟨rfl, rfl⟩ := Prod.mk.inj same
        exact ⟨0, rule, leaf.1, rfl, rfl, member⟩
      · exact ⟨turn + 1, child, below, by simpa using found, by rw [stands]; congr 1; omega, member⟩
    · rintro ⟨turn, child, below, found, rfl, member⟩
      cases turn with
      | zero =>
        have same : rule = child := by simpa using found
        subst same
        exact .inl (List.mem_map.2 ⟨(below, condition), member, rfl⟩)
      | succ turn =>
        exact .inr ⟨turn, child, below, by simpa using found, by congr 1; omega, member⟩

theorem mem_leaves_iff (rule : Rule) (position : Position) (condition : Condition) :
    (position, condition) ∈ rule.leaves ↔ rule.at? position = some (.leaf condition) := by
  induction rule generalizing position with
  | leaf held =>
    cases position with
    | nil => simp [eq_comm]
    | cons turn below => simp
  | node logic children ih =>
    rw [leaves_node, mem_leavesFrom_iff]
    cases position with
    | nil => simp
    | cons turn below =>
      rw [at?_cons_node, Option.bind_eq_some_iff]
      constructor
      · rintro ⟨number, child, rest, found, same, member⟩
        obtain ⟨rfl, rfl⟩ := List.cons.inj same
        rw [Nat.zero_add]
        exact ⟨child, found, (ih child (List.mem_of_getElem? found) below).1 member⟩
      · rintro ⟨child, found, stands⟩
        refine ⟨turn, child, below, found, by rw [Nat.zero_add], ?_⟩
        exact (ih child (List.mem_of_getElem? found) below).2 stands

theorem leaves_increasing (rule : Rule) :
    rule.leaves.Pairwise (fun left right => left.1 < right.1) := by
  induction rule with
  | leaf condition => simp
  | node logic children ih =>
    rw [leaves_node]
    generalize 0 = first
    induction children generalizing first with
    | nil => simp
    | cons rule rest rest_ih =>
      rw [leavesFrom_cons, List.pairwise_append]
      refine ⟨?_, rest_ih (fun child member => ih child (List.mem_cons_of_mem _ member)) (first + 1), ?_⟩
      · refine List.Pairwise.map (under first) ?_ (ih rule List.mem_cons_self)
        intro left right before
        exact List.cons_lt_cons_iff.2 (.inr ⟨rfl, before⟩)
      · intro left here right there
        obtain ⟨leaf, _, rfl⟩ := List.mem_map.1 here
        obtain ⟨turn, _, below, _, stands, _⟩ := (mem_leavesFrom_iff _ _ right.1 right.2).1 there
        rw [stands]
        exact List.cons_lt_cons_iff.2 (.inl (by omega))

def conditions (rule : Rule) : List Condition := rule.leaves.map Prod.snd

@[simp] theorem conditions_leaf (condition : Condition) : conditions (.leaf condition) = [condition] := by
  simp [conditions]

@[simp] theorem conditions_node (logic : Logic) (children : List Rule) :
    conditions (.node logic children) = children.flatMap conditions := by
  rw [conditions, leaves_node]
  generalize 0 = first
  induction children generalizing first with
  | nil => simp
  | cons rule rest ih =>
    have forget : Prod.snd ∘ under first = Prod.snd := rfl
    rw [leavesFrom_cons, List.map_append, List.map_map, forget, ih, List.flatMap_cons, conditions]

theorem count_eq_length (rule : Rule) : rule.count = rule.leaves.length := by
  induction rule with
  | leaf condition => simp [count]
  | node logic children ih =>
    rw [count, leaves_node]
    generalize 0 = first
    induction children generalizing first with
    | nil => simp [countAll]
    | cons rule rest rest_ih =>
      have rest_length := rest_ih (fun child member => ih child (List.mem_cons_of_mem _ member)) (first + 1)
      rw [countAll, leavesFrom_cons, List.length_append, List.length_map, ih rule List.mem_cons_self,
        rest_length]

end Criteria.Rule
