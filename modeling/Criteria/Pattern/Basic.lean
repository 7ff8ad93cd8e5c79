import Criteria.Pattern.Grammar

/-!
Patterns as conditions use them: the text of a regular expression, put between an anchor with an open
group and the parenthesis that closes the group, and read as a whole. A pattern may be of any size and
nested to any depth; the limits on the compiled size and on the nesting that matchers impose have no
counterpart here.

A text is searched for a match with sets of positions. They are natural numbers whose bit `i` says whether
position `i` belongs to the set, and an expression turns the set of positions where a match may start into
the set of positions where one can end. Every step is one operation on such numbers, so the time does not
explode with nested repetitions.
-/
namespace Criteria

-- See the note on powers in Criteria.Pattern.Grammar.
attribute [local instance (high)] instPowNat

namespace Pattern

def indices {α : Type} (test : α → Bool) : List α → Nat
  | [] => 0
  | x :: rest => 2 * indices test rest + (if test x then 1 else 0)

def neighbours : Option Char → List Char → List (Option Char × Option Char)
  | before, [] => [(before, none)]
  | before, c :: rest => (before, some c) :: neighbours (some c) rest

/-- An expression laid over a text: each character set and each condition is replaced by the set of
positions where it applies. -/
inductive Track where
  | stay
  | stayAt (positions : Nat)
  | stepAt (positions : Nat)
  | sequence (first second : Track)
  | choice (left right : Track)
  | times (inner : Track) (least : Nat) (most : Option Nat)

def Track.ofExpr (sides : List (Option Char × Option Char)) : Expr → Track
  | .empty => .stay
  | .one set => .stepAt (indices (fun side => side.2.any set.contains) sides)
  | .look condition => .stayAt (indices (fun side => condition.holds side.1 side.2) sides)
  | .sequence first second => .sequence (ofExpr sides first) (ofExpr sides second)
  | .choice left right => .choice (ofExpr sides left) (ofExpr sides right)
  | .times inner least most => .times (ofExpr sides inner) least most

def repeated (step : Nat → Nat) : Nat → Nat → Nat
  | 0, positions => positions
  | count + 1, positions => repeated step count (step positions)

def reached (step : Nat → Nat) : Nat → Nat → Nat
  | 0, positions => positions
  | count + 1, positions =>
    let next := positions ||| step positions
    if next = positions then positions else reached step count next

/-- The positions where a match that starts at one of `starts` can end. More than `limit` repetitions
reach nothing that fewer do not, if `limit` exceeds the length of the text: among so many repetitions
one stays where it is, and it can be left out or doubled. -/
def Track.ends (limit : Nat) : Track → (starts : Nat) → Nat
  | .stay, starts => starts
  | .stayAt positions, starts => starts &&& positions
  | .stepAt positions, starts => (starts &&& positions) <<< 1
  | .sequence first second, starts => second.ends limit (first.ends limit starts)
  | .choice left right, starts => left.ends limit starts ||| right.ends limit starts
  | .times inner least most, starts =>
    let extra := match most with
      | none => limit
      | some bound => min (bound - least) limit
    reached (inner.ends limit) extra (repeated (inner.ends limit) (min least limit) starts)

namespace Expr

def endsFrom (expr : Expr) (text : List Char) (starts : Nat) : Nat :=
  (Track.ofExpr (neighbours none text) expr).ends (text.length + 1) starts

def matchesAtStart (expr : Expr) (text : List Char) : Bool := expr.endsFrom text 1 != 0

def matchesSomewhere (expr : Expr) (text : List Char) : Bool :=
  expr.endsFrom text (2 ^ (text.length + 1) - 1) != 0

end Expr

def anchored (source : List Char) : List Char := ['\\', 'A', '(', '?', ':'] ++ source ++ [')']

end Pattern

structure Pattern where
  source : String
  expr : Pattern.Expr
  reads : Pattern.Expr.ofChars? (Pattern.anchored source.toList) = some expr

namespace Pattern

def ofText? (source : String) : Option Pattern :=
  match found : Expr.ofChars? (anchored source.toList) with
  | some expr => some ⟨source, expr, found⟩
  | none => none

def occursIn (pattern : Pattern) (text : String) : Bool := pattern.expr.matchesSomewhere text.toList

end Pattern

end Criteria
