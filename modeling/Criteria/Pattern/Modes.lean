import Criteria.Pattern.Expr

/-!
The modes that govern how a pattern is read, the blanks and comments that the extended mode passes
over, and what single letters, dots and line anchors mean under the modes.
-/
namespace Criteria.Pattern

structure Modes where
  ignoreCase : Bool
  multiLine : Bool
  dotAll : Bool
  unicode : Bool
  carriageReturns : Bool
  extended : Bool
deriving DecidableEq, Repr

namespace Modes

def initial : Modes := ⟨false, false, false, true, false, false⟩

/-- Sets the mode of a letter. Preferring short matches is a mode too, but it changes which match is
found and never whether there is one. -/
def set? (modes : Modes) (letter : Char) (on : Bool) : Option Modes :=
  match letter with
  | 'i' => some { modes with ignoreCase := on }
  | 'm' => some { modes with multiLine := on }
  | 's' => some { modes with dotAll := on }
  | 'U' => some modes
  | 'u' => some { modes with unicode := on }
  | 'R' => some { modes with carriageReturns := on }
  | 'x' => some { modes with extended := on }
  | _ => none

def skipFrom : (comment : Bool) → List Char → List Char
  | _, [] => []
  | true, c :: rest => skipFrom (c != '\n') rest
  | false, c :: rest =>
    if Unicode.isWhiteSpace c then skipFrom false rest
    else if c = '#' then skipFrom true rest
    else c :: rest

def skip (modes : Modes) (text : List Char) : List Char :=
  if modes.extended then skipFrom false text else text

def fold (modes : Modes) (set : CharSet) : CharSet :=
  if modes.ignoreCase then (if modes.unicode then .folded set else .asciiFolded set) else set

/-- The complement of a set. Without Unicode it would hold bytes that are no characters. -/
def complement? (modes : Modes) (set : CharSet) : Option CharSet :=
  if modes.unicode then some (.complement set) else none

def negate? (modes : Modes) (negated : Bool) (set : CharSet) : Option CharSet :=
  if negated then modes.complement? set else some set

def dot? (modes : Modes) : Option CharSet :=
  if !modes.unicode then none
  else if modes.dotAll then some (.complement .empty)
  else if modes.carriageReturns then some (.complement (.ranges [(10, 10), (13, 13)]))
  else some (.complement (.ranges [(10, 10)]))

def caret (modes : Modes) : Look :=
  if !modes.multiLine then .textStart
  else if modes.carriageReturns then .anyLineStart
  else .lineStart

def dollar (modes : Modes) : Look :=
  if !modes.multiLine then .textEnd
  else if modes.carriageReturns then .anyLineEnd
  else .lineEnd

/-- A character that stands for itself. `byte` says that it was written by two hexadecimal digits,
which without Unicode mean a byte, and no character beyond ASCII is a single byte. -/
def literal? (modes : Modes) (c : Char) (byte : Bool) : Option CharSet :=
  if !modes.unicode && decide (128 ≤ c.toNat) && byte then none
  else some (modes.fold (.single c))

def member? (modes : Modes) (c : Char) : Option Nat :=
  if !modes.unicode && decide (128 ≤ c.toNat) then none else some c.toNat

end Modes

end Criteria.Pattern
