import Criteria.Pattern.Brackets
import Criteria.Unicode.Lookup

/-!
Reading a pattern. The text is taken from left to right under the modes in force; a group ends with its
parenthesis, and with it the modes that were set inside.
-/
namespace Criteria.Pattern

-- Powers are those of the core library, whatever else is imported. The exponents carry their type, so that no
-- default is asked for.
attribute [local instance (high)] instPowNat

/-- Where reading stands: what is left of the text, the modes in force, and the group names in use. -/
structure Reading where
  text : List Char
  modes : Modes
  names : List (List Char)

/-- A part of a sequence. A change of modes is a part too, but one that cannot be repeated. -/
structure Part where
  expr : Expr
  repeatable : Bool

namespace Grammar

/-- The modes named by letters up to the end of a group's head, which is a colon or a closing
parenthesis and stays in the text. A hyphen switches off what follows it; neither it nor a letter may
occur twice, and the hyphen may not come last. -/
def modeLetters? : (on : Bool) → (seen : List Char) → Modes → List Char → Option (List Char × Modes × List Char)
  | _, _, _, [] => none
  | on, seen, modes, c :: rest =>
    if c = ':' ∨ c = ')' then
      if seen.head? = some '-' then none else some (seen, modes, c :: rest)
    else if seen.contains c then none
    else if c = '-' then modeLetters? false ('-' :: seen) modes rest
    else match modes.set? c on with
      | some modes => modeLetters? on (c :: seen) modes rest
      | none => none

def isNameStart (c : Char) : Bool := c == '_' || Unicode.isAlphabetic c

def isNamePart (c : Char) : Bool :=
  c == '_' || c == '.' || c == '[' || c == ']' || Unicode.isAlphanumeric c

def groupName? (text : List Char) : Option (List Char × List Char) :=
  match text.takeWhile (· != '>'), text.dropWhile (· != '>') with
  | first :: others, '>' :: rest =>
    if isNameStart first && others.all isNamePart then some (first :: others, rest) else none
  | _, _ => none

inductive Opening where
  /-- A change of modes for the rest of the enclosing group. -/
  | change (modes : Modes) (rest : List Char)
  | group (inside : Reading)

def namedGroup? (reading : Reading) (text : List Char) : Option Opening :=
  match groupName? text with
  | some (name, rest) =>
    if reading.names.contains name then none
    else some (.group ⟨rest, reading.modes, name :: reading.names⟩)
  | none => none

def opening? (reading : Reading) (text : List Char) : Option Opening :=
  match reading.modes.skip text with
  | '?' :: '=' :: _ => none
  | '?' :: '!' :: _ => none
  | '?' :: '<' :: '=' :: _ => none
  | '?' :: '<' :: '!' :: _ => none
  | '?' :: 'P' :: '<' :: rest => namedGroup? reading rest
  | '?' :: '<' :: rest => namedGroup? reading rest
  | '?' :: rest =>
    match modeLetters? true [] reading.modes rest with
    | some (_, modes, ':' :: rest) => some (.group ⟨rest, modes, reading.names⟩)
    | some (_ :: _, modes, ')' :: rest) => some (.change modes rest)
    | _ => none
  | rest => some (.group ⟨rest, reading.modes, reading.names⟩)

def countDigits (modes : Modes) : (fuel : Nat) → List Char → List Char × List Char
  | 0, text => ([], text)
  | fuel + 1, text =>
    match text with
    | c :: rest =>
      if c.isDigit then
        let (digits, rest) := countDigits modes fuel (modes.skip rest)
        (c :: digits, rest)
      else ([], text)
    | [] => ([], [])

def skipCountBlanks (modes : Modes) : (fuel : Nat) → List Char → List Char
  | 0, text => text
  | fuel + 1, text =>
    match text with
    | c :: rest => if Unicode.isWhiteSpace c then skipCountBlanks modes fuel (modes.skip rest) else text
    | [] => []

def count? (modes : Modes) (text : List Char) : Option (Nat × List Char) :=
  let text := text.dropWhile Unicode.isWhiteSpace
  let (digits, rest) := countDigits modes text.length text
  let rest := skipCountBlanks modes rest.length rest
  let value := Text.decimal digits
  if digits.isEmpty ∨ 2 ^ (32 : Nat) ≤ value then none else some (value, rest)

/-- The bounds of a repetition after its brace, up to and without the closing brace. -/
def bounds? (modes : Modes) (text : List Char) : Option (Nat × Option Nat × List Char) := do
  let (least, text) ← count? modes (modes.skip text)
  match text with
  | ',' :: rest =>
    match modes.skip rest with
    | '\x7d' :: rest => some (least, none, rest)
    | text =>
      let (most, text) ← count? modes text
      match text with
      | '\x7d' :: rest => if least ≤ most then some (least, some most, rest) else none
      | _ => none
  | '\x7d' :: rest => some (least, some least, rest)
  | _ => none

/-- The text after a question mark, if it starts with one: it asks for short matches, which does not
change whether there is a match. -/
def skipShortest : List Char → List Char
  | '?' :: rest => rest
  | text => text

def repeatLast? (least : Nat) (most : Option Nat) : List Part → Option (List Part)
  | [] => none
  | last :: earlier =>
    if last.repeatable then some (⟨.times last.expr least most, true⟩ :: earlier) else none

def sequence : List Part → Expr
  | [] => .empty
  | [only] => only.expr
  | last :: earlier => .sequence (sequence earlier) last.expr

def branches : (earlier : List Expr) → (last : List Part) → Expr
  | [], last => sequence last
  | branch :: earlier, last => .choice (earlier.foldl (fun right left => .choice left right) branch) (sequence last)

def escaped? (modes : Modes) (text : List Char) : Option (Expr × List Char) :=
  match Escape.read? modes text with
  | some (.char c byte, rest) => (modes.literal? c byte).map fun set => (.one set, rest)
  | some (.oneOf members, rest) => some (.one members, rest)
  | some (.look condition, rest) => some (.look condition, rest)
  | none => none

def primitive? (modes : Modes) : List Char → Option (Expr × List Char)
  | [] => none
  | '\\' :: rest => escaped? modes rest
  | '.' :: rest => modes.dot?.map fun set => (.one set, rest)
  | '^' :: rest => some (.look modes.caret, rest)
  | '$' :: rest => some (.look modes.dollar, rest)
  | '[' :: rest => (Brackets.read? modes rest).map fun read => (.one read.1, read.2)
  | c :: rest => (modes.literal? c false).map fun set => (.one set, rest)

def repetition? (modes : Modes) : List Char → Option (Option (Nat × Option Nat × List Char))
  | '?' :: rest => some (some (0, some 1, skipShortest rest))
  | '*' :: rest => some (some (0, none, skipShortest rest))
  | '+' :: rest => some (some (1, none, skipShortest rest))
  | '\x7b' :: rest =>
    (bounds? modes rest).map fun bounds =>
      some (bounds.1, bounds.2.1, skipShortest (modes.skip bounds.2.2))
  | _ => some none

/-- The rest of a group, up to and without its closing parenthesis: `earlier` are the branches that
are complete, and `parts` is what the current one has so far, both in reverse order. -/
def body? : (fuel : Nat) → (earlier : List Expr) → (parts : List Part) → Reading → Option (Expr × Reading)
  | 0, _, _, _ => none
  | fuel + 1, earlier, parts, reading =>
    let modes := reading.modes
    match modes.skip reading.text with
    | [] => some (branches earlier parts, { reading with text := [] })
    | ')' :: rest => some (branches earlier parts, { reading with text := ')' :: rest })
    | '|' :: rest => body? fuel (sequence parts :: earlier) [] { reading with text := rest }
    | '(' :: rest =>
      match opening? reading rest with
      | none => none
      | some (.change modes rest) =>
        body? fuel earlier (⟨.empty, false⟩ :: parts) ⟨rest, modes, reading.names⟩
      | some (.group inside) =>
        match body? fuel [] [] inside with
        | some (inner, ⟨')' :: rest, _, names⟩) =>
          body? fuel earlier (⟨inner, true⟩ :: parts) ⟨rest, modes, names⟩
        | _ => none
    | text =>
      match repetition? modes text with
      | none => none
      | some (some (least, most, rest)) =>
        match repeatLast? least most parts with
        | some parts => body? fuel earlier parts { reading with text := rest }
        | none => none
      | some none =>
        match primitive? modes text with
        | some (expr, rest) => body? fuel earlier (⟨expr, true⟩ :: parts) { reading with text := rest }
        | none => none

end Grammar

/-- The expression that a text spells, if the whole text is one. Every step takes at least one
character off the text, so its length is fuel enough. -/
def Expr.ofChars? (text : List Char) : Option Expr :=
  match Grammar.body? (text.length + 1) [] [] ⟨text, .initial, []⟩ with
  | some (expr, ⟨[], _, _⟩) => some expr
  | _ => none

end Criteria.Pattern
