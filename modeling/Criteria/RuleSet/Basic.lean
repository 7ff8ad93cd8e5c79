import Criteria.Condition.Basic

/-!
Rules: conditions, and sets of rules combined by "and" or "or", nested to any depth.
-/
namespace Criteria

inductive Rule where
  | leaf (condition : Condition)
  | node (logic : Logic) (children : List Rule)

structure RuleSet where
  logic : Logic
  children : List Rule

namespace Rule

mutual

def count : Rule → Nat
  | .leaf _ => 1
  | .node _ children => countAll children

def countAll : List Rule → Nat
  | [] => 0
  | rule :: rest => count rule + countAll rest

end

mutual

def text : Rule → String
  | .leaf condition => condition.text
  | .node logic children => logic.name ++ "(" ++ Text.commaSeparated (texts children) ++ ")"

def texts : List Rule → List String
  | [] => []
  | rule :: rest => text rule :: texts rest

end

mutual

def equals : Rule → Rule → Bool
  | .leaf left, .leaf right => left.equals right
  | .node leftLogic left, .node rightLogic right => leftLogic == rightLogic && equalAll left right
  | _, _ => false

def equalAll : List Rule → List Rule → Bool
  | [], [] => true
  | left :: lefts, right :: rights => equals left right && equalAll lefts rights
  | _, _ => false

end

instance : BEq Rule := ⟨equals⟩

end Rule

namespace RuleSet

def toRule (rules : RuleSet) : Rule := .node rules.logic rules.children

instance : Coe RuleSet Rule := ⟨toRule⟩

instance : Coe Condition Rule := ⟨.leaf⟩

/-- All rules must hold; a set without rules holds. -/
def all (children : List Rule) : RuleSet := ⟨.and, children⟩

/-- Some rule must hold; a set without rules does not hold. -/
def any (children : List Rule) : RuleSet := ⟨.or, children⟩

def count (rules : RuleSet) : Nat := rules.toRule.count

def text (rules : RuleSet) : String := rules.toRule.text

instance : BEq RuleSet := ⟨fun left right => left.toRule.equals right.toRule⟩

end RuleSet

def Rule.set? : Rule → Option RuleSet
  | .leaf _ => none
  | .node logic children => some ⟨logic, children⟩

end Criteria
