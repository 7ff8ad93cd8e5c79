/-!
Text by characters: the pieces of which messages are laid out, numbers written in digits, whether one
text occurs inside another, and the pieces between full stops.
-/
namespace Criteria.Text

def commaSeparated : List String → String
  | [] => ""
  | [only] => only
  | first :: rest => first ++ ", " ++ commaSeparated rest

def truth (b : Bool) : String := if b then "true" else "false"

def decimal (digits : List Char) : Nat :=
  digits.foldl (fun value digit => value * 10 + (digit.toNat - '0'.toNat)) 0

def hexDigit? (c : Char) : Option Nat :=
  if '0' ≤ c ∧ c ≤ '9' then some (c.toNat - '0'.toNat)
  else if 'a' ≤ c ∧ c ≤ 'f' then some (c.toNat - 'a'.toNat + 10)
  else if 'A' ≤ c ∧ c ≤ 'F' then some (c.toNat - 'A'.toNat + 10)
  else none

def occurs (needle : List Char) : List Char → Bool
  | [] => needle.isEmpty
  | c :: rest => needle.isPrefixOf (c :: rest) || occurs needle rest

/-- The pieces of a text between its full stops. There is always one piece more than there are full
stops, and a piece may be empty. -/
def splitDots : List Char → List (List Char)
  | [] => [[]]
  | c :: rest =>
    if c = '.' then [] :: splitDots rest
    else match splitDots rest with
      | [] => [[c]]
      | piece :: others => (c :: piece) :: others

theorem occurs_iff (needle text : List Char) : occurs needle text = true ↔ needle <:+: text := by
  induction text with
  | nil => simp [occurs]
  | cons c rest ih => simp [occurs, List.infix_cons_iff, ih]

theorem splitDots_ne_nil (text : List Char) : splitDots text ≠ [] := by
  cases text with
  | nil => simp [splitDots]
  | cons c rest =>
    unfold splitDots
    split
    · simp
    · split <;> simp

theorem splitDots_append (left right : List Char) :
    splitDots (left ++ '.' :: right) = splitDots left ++ splitDots right := by
  induction left with
  | nil => rfl
  | cons c rest ih =>
    rw [List.cons_append, splitDots, splitDots, ih]
    by_cases stop : c = '.'
    · rw [if_pos stop, if_pos stop, List.cons_append]
    · rw [if_neg stop, if_neg stop]
      cases pieces : splitDots rest with
      | nil => exact absurd pieces (splitDots_ne_nil rest)
      | cons piece others => rfl

end Criteria.Text
