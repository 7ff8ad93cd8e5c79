import Criteria.Unicode.Lookup

/-!
Regular expressions and what they match. A match is a stretch of the text between two positions, and
position `i` stands before the character with index `i`.
-/
namespace Criteria.Pattern

inductive WordEdge where
  | boundary
  | inside
  | start
  | finish
  | startHalf
  | finishHalf
deriving DecidableEq, Repr

inductive Look where
  | textStart
  | textEnd
  | lineStart
  | lineEnd
  /-- Lines end with a carriage return, a line feed, or both, and never between the two. -/
  | anyLineStart
  | anyLineEnd
  | word (edge : WordEdge) (asciiOnly : Bool)
deriving DecidableEq, Repr

namespace WordEdge

def holds : WordEdge → (before after : Bool) → Bool
  | .boundary, before, after => before != after
  | .inside, before, after => before == after
  | .start, before, after => !before && after
  | .finish, before, after => before && !after
  | .startHalf, before, _ => !before
  | .finishHalf, _, after => !after

end WordEdge

namespace Look

def holds : Look → (before after : Option Char) → Bool
  | .textStart, before, _ => before.isNone
  | .textEnd, _, after => after.isNone
  | .lineStart, before, _ => before.isNone || before == some '\n'
  | .lineEnd, _, after => after.isNone || after == some '\n'
  | .anyLineStart, before, after =>
    before.isNone || before == some '\n' || (before == some '\r' && after != some '\n')
  | .anyLineEnd, before, after =>
    after.isNone || after == some '\r' || (after == some '\n' && before != some '\r')
  | .word edge asciiOnly, before, after =>
    let word := if asciiOnly then Unicode.asciiWord else Unicode.wordCharacters
    edge.holds (before.any word.contains) (after.any word.contains)

end Look

inductive Expr where
  | empty
  | one (set : CharSet)
  | look (condition : Look)
  | sequence (first second : Expr)
  | choice (left right : Expr)
  /-- So many times at least, and so many at most if there is a bound. -/
  | times (inner : Expr) (least : Nat) (most : Option Nat)

namespace Expr

def before? (text : List Char) (position : Nat) : Option Char :=
  if position = 0 then none else text[position - 1]?

/-- An expression matches the text from one position to another. -/
inductive Spans (text : List Char) : Expr → Nat → Nat → Prop
  | empty (i : Nat) : Spans text .empty i i
  | one {set : CharSet} {c : Char} {i : Nat} (found : text[i]? = some c)
      (member : set.contains c = true) : Spans text (.one set) i (i + 1)
  | look {condition : Look} {i : Nat}
      (holds : condition.holds (before? text i) text[i]? = true) : Spans text (.look condition) i i
  | sequence {first second : Expr} {i j k : Nat} (left : Spans text first i j)
      (right : Spans text second j k) : Spans text (.sequence first second) i k
  | left {left right : Expr} {i j : Nat} (taken : Spans text left i j) :
      Spans text (.choice left right) i j
  | right {left right : Expr} {i j : Nat} (taken : Spans text right i j) :
      Spans text (.choice left right) i j
  | never {inner : Expr} {most : Option Nat} (i : Nat) : Spans text (.times inner 0 most) i i
  | again {inner : Expr} {least : Nat} {most : Option Nat} {i j k : Nat}
      (room : most ≠ some 0) (first : Spans text inner i j)
      (rest : Spans text (.times inner (least - 1) (most.map (· - 1))) j k) :
      Spans text (.times inner least most) i k

end Expr

end Criteria.Pattern
