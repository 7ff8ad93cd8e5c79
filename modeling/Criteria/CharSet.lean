import Criteria.Unicode.CaseOrbit

/-!
Sets of characters, built from ranges of code points by the operations of set theory and by ignoring
case. A set is kept as it was built, and membership is decided along that construction.
-/
namespace Criteria

inductive CharSet where
  | ranges (pairs : List (Nat × Nat))
  | union (left right : CharSet)
  | intersection (left right : CharSet)
  | difference (left right : CharSet)
  /-- What is in exactly one of two sets. -/
  | exclusive (left right : CharSet)
  | complement (set : CharSet)
  /-- What differs from a member in case only, by simple folding. -/
  | folded (set : CharSet)
  /-- What differs from a member in the case of an ASCII letter only. -/
  | asciiFolded (set : CharSet)

namespace CharSet

def empty : CharSet := .ranges []

def single (c : Char) : CharSet := .ranges [(c.toNat, c.toNat)]

def swapAsciiCase (codePoint : Nat) : Nat :=
  if 65 ≤ codePoint ∧ codePoint ≤ 90 then codePoint + 32
  else if 97 ≤ codePoint ∧ codePoint ≤ 122 then codePoint - 32
  else codePoint

def has : CharSet → Nat → Bool
  | .ranges pairs, n => pairs.any fun pair => decide (pair.1 ≤ n ∧ n ≤ pair.2)
  | .union left right, n => left.has n || right.has n
  | .intersection left right, n => left.has n && right.has n
  | .difference left right, n => left.has n && !right.has n
  | .exclusive left right, n => left.has n != right.has n
  | .complement set, n => !set.has n
  | .folded set, n => (Unicode.caseOrbit n).any fun other => set.has other
  | .asciiFolded set, n => set.has n || set.has (swapAsciiCase n)

def contains (set : CharSet) (c : Char) : Bool := set.has c.toNat

end CharSet

end Criteria
