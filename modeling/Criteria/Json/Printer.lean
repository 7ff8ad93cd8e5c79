import Criteria.Binary64.Notation
import Criteria.Json.Basic

/-!
The compact text of a JSON tree: no blanks, fields in the order of their names, and only what must be
escaped is escaped.
-/
namespace Criteria

/-- Floats in JSON always show a fraction or an exponent; positional notation runs from 0.00001 up to
but not including 10^16, and a tie between two shortest texts goes to the even digit. -/
def Binary64.jsonStyle : DecimalStyle := ⟨.toEven, fun leading => decide (-5 ≤ leading ∧ leading < 16), true⟩

namespace Json

def hexPair (n : Nat) : List Char := [Nat.digitChar (n / 16), Nat.digitChar (n % 16)]

def escape (c : Char) : List Char :=
  if c = '"' then ['\\', '"']
  else if c = '\\' then ['\\', '\\']
  else if c = '\n' then ['\\', 'n']
  else if c = '\r' then ['\\', 'r']
  else if c = '\t' then ['\\', 't']
  else if c = '\x08' then ['\\', 'b']
  else if c = '\x0c' then ['\\', 'f']
  else if c.toNat < 32 then '\\' :: 'u' :: '0' :: '0' :: hexPair c.toNat
  else [c]

def quoted (s : String) : List Char := '"' :: s.toList.flatMap escape ++ ['"']

def Number.print : Number → List Char
  | .int n _ => if n < 0 then '-' :: Nat.toDigits 10 n.natAbs else Nat.toDigits 10 n.natAbs
  | .float x _ => (Binary64.jsonStyle.write x).toList

mutual

def print : Json → List Char
  | .null => ['n', 'u', 'l', 'l']
  | .bool true => ['t', 'r', 'u', 'e']
  | .bool false => ['f', 'a', 'l', 's', 'e']
  | .number n => n.print
  | .string s => quoted s
  | .array items => '[' :: printItems items ++ [']']
  | .object fields => '\x7b' :: printFields fields ++ ['\x7d']

def printItems : List Json → List Char
  | [] => []
  | [only] => print only
  | first :: rest => print first ++ ',' :: printItems rest

def printFields : Fields Json → List Char
  | [] => []
  | [(name, only)] => quoted name ++ ':' :: print only
  | (name, first) :: rest => quoted name ++ ':' :: (print first ++ ',' :: printFields rest)

end

def text (tree : Json) : String := String.ofList tree.print

end Json

end Criteria
