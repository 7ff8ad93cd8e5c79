/-!
Sets of characters in compact form. A set is written as run lengths: how many code points to pass
over and how many to take, in turn, starting from zero.
-/
namespace Criteria.Unicode

/-- A character property or property value: the names it goes by, folded to lower case and without
blanks, hyphens and underscores, and the run lengths of its characters. -/
structure PropertySet where
  names : List String
  runs : String

/-- The decimal numbers in a text with any other characters between them. The first argument holds the
number being read. -/
def numbersFrom : Option Nat → List Char → List Nat
  | open?, [] => open?.toList
  | open?, c :: rest =>
    if c.isDigit then numbersFrom (some (open?.getD 0 * 10 + (c.toNat - '0'.toNat))) rest
    else open?.toList ++ numbersFrom none rest

def numbers (text : List Char) : List Nat := numbersFrom none text

def numberGroups (text : String) : List (List Nat) :=
  (text.splitToList fun c => c == ';').map fun group => numbers group.toList

def rangesFrom : Nat → List Nat → List (Nat × Nat)
  | position, gap :: length :: rest =>
    (position + gap, position + gap + length - 1) :: rangesFrom (position + gap + length) rest
  | _, _ => []

def PropertySet.ranges (set : PropertySet) : List (Nat × Nat) :=
  rangesFrom 0 (numbers set.runs.toList)

def named? (name : String) (sets : List PropertySet) : Option PropertySet :=
  sets.find? fun set => set.names.contains name

end Criteria.Unicode
