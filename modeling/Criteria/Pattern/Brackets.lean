import Criteria.Pattern.Escape

/-!
Classes of characters between brackets: characters, ranges, escapes, named ASCII classes and nested
brackets, combined by intersection, difference and symmetric difference.
-/
namespace Criteria.Pattern.Brackets

inductive Operation where
  | intersection
  | difference
  | exclusive
deriving DecidableEq, Repr

abbrev Pending := Option (Operation × CharSet)

/-- What an operation makes of its operands; if case is ignored, both are folded first. -/
def combine (modes : Modes) : Pending → CharSet → CharSet
  | none, set => set
  | some (.intersection, left), set => .intersection (modes.fold left) (modes.fold set)
  | some (.difference, left), set => .difference (modes.fold left) (modes.fold set)
  | some (.exclusive, left), set => .exclusive (modes.fold left) (modes.fold set)

def asciiClass? (name : List Char) : Option CharSet :=
  match String.ofList name with
  | "alnum" => some (.ranges [(48, 57), (65, 90), (97, 122)])
  | "alpha" => some (.ranges [(65, 90), (97, 122)])
  | "ascii" => some (.ranges [(0, 127)])
  | "blank" => some (.ranges [(9, 9), (32, 32)])
  | "cntrl" => some (.ranges [(0, 31), (127, 127)])
  | "digit" => some (.ranges [(48, 57)])
  | "graph" => some (.ranges [(33, 126)])
  | "lower" => some (.ranges [(97, 122)])
  | "print" => some (.ranges [(32, 126)])
  | "punct" => some (.ranges [(33, 47), (58, 64), (91, 96), (123, 126)])
  | "space" => some (.ranges [(9, 13), (32, 32)])
  | "upper" => some (.ranges [(65, 90)])
  | "word" => some (.ranges [(48, 57), (65, 90), (95, 95), (97, 122)])
  | "xdigit" => some (.ranges [(48, 57), (65, 70), (97, 102)])
  | _ => none

/-- A named class after its opening bracket: whether it is negated, its set, and the text after it.
Text of any other form is no error but the start of a nested class. -/
def named? (text : List Char) : Option (Bool × CharSet × List Char) := do
  let inside ← match text with
    | ':' :: rest => some rest
    | _ => none
  let (negated, inside) := match inside with
    | '^' :: rest => (true, rest)
    | _ => (false, inside)
  match inside.dropWhile (· != ':') with
  | ':' :: ']' :: rest =>
    let set ← asciiClass? (inside.takeWhile (· != ':'))
    some (negated, set, rest)
  | _ => none

def leadingHyphens (modes : Modes) : (fuel : Nat) → List Char → Bool × List Char
  | fuel + 1, '-' :: rest => (true, (leadingHyphens modes fuel (modes.skip rest)).2)
  | _, text => (false, text)

/-- The start of a class after its bracket: whether it is negated, the characters that stand for
themselves there, and the text after them. A closing bracket that comes first is such a character. -/
def opening (modes : Modes) (text : List Char) : Bool × CharSet × List Char :=
  let text := modes.skip text
  let (negated, text) := match text with
    | '^' :: rest => (true, modes.skip rest)
    | _ => (false, text)
  match leadingHyphens modes text.length text with
  | (true, rest) => (negated, .single '-', rest)
  | (false, _) =>
    match text with
    | ']' :: rest => (negated, .single ']', modes.skip rest)
    | _ => (negated, .empty, text)

/-- The character after the one at the start of the text, as far as a hyphen there is concerned. In the
extended mode blanks do not count; where a comment starts, its first character that is no blank does. -/
def peek? (modes : Modes) : List Char → Option Char
  | [] => none
  | _ :: rest =>
    if modes.extended then
      match rest.dropWhile Unicode.isWhiteSpace with
      | '#' :: comment => ((comment.dropWhile Unicode.isWhiteSpace).head?).or rest.head?
      | c :: _ => some c
      | [] => rest.head?
    else rest.head?

def item? (modes : Modes) : List Char → Option (Escape × List Char)
  | [] => none
  | '\\' :: rest => Escape.read? modes rest
  | c :: rest => some (.char c false, rest)

def itemSet? (modes : Modes) : Escape → Option CharSet
  | .char c _ => (modes.member? c).map fun n => .ranges [(n, n)]
  | .oneOf members => some members
  | .look _ => none

def rangeSet? (modes : Modes) : Escape → Escape → Option CharSet
  | .char first _, .char last _ => do
    let low ← modes.member? first
    let high ← modes.member? last
    if low ≤ high then some (.ranges [(low, high)]) else none
  | _, _ => none

def element? (modes : Modes) (text : List Char) : Option (CharSet × List Char) := do
  let (first, text) ← item? modes text
  match modes.skip text with
  | [] => none
  | '-' :: rest =>
    let next := peek? modes ('-' :: rest)
    if next = some ']' ∨ next = some '-' then
      let set ← itemSet? modes first
      some (set, '-' :: rest)
    else
      let (last, text) ← item? modes (modes.skip rest)
      let set ← rangeSet? modes first last
      some (set, text)
  | text =>
    let set ← itemSet? modes first
    some (set, text)

def close? (modes : Modes) (negated : Bool) (set : CharSet) : Option CharSet :=
  modes.negate? negated (modes.fold set)

/-- The rest of a class up to its closing bracket: `pending` is the operation that waits for its right
operand, and `sofar` is what that operand has gathered. -/
def elements? (modes : Modes) :
    (fuel : Nat) → (pending : Pending) → (sofar : CharSet) → List Char → Option (CharSet × List Char)
  | 0, _, _, _ => none
  | fuel + 1, pending, sofar, text =>
    match modes.skip text with
    | [] => none
    | ']' :: rest => some (combine modes pending sofar, rest)
    | '&' :: '&' :: rest =>
      elements? modes fuel (some (.intersection, combine modes pending sofar)) .empty rest
    | '-' :: '-' :: rest =>
      elements? modes fuel (some (.difference, combine modes pending sofar)) .empty rest
    | '~' :: '~' :: rest =>
      elements? modes fuel (some (.exclusive, combine modes pending sofar)) .empty rest
    | '[' :: rest =>
      match named? rest with
      | some (negated, set, rest) =>
        match close? modes negated set with
        | some set => elements? modes fuel pending (.union sofar set) rest
        | none => none
      | none =>
        let (negated, first, rest) := opening modes rest
        match elements? modes fuel none first rest with
        | some (set, rest) =>
          match close? modes negated set with
          | some set => elements? modes fuel pending (.union sofar set) rest
          | none => none
        | none => none
    | text =>
      match element? modes text with
      | some (set, rest) => elements? modes fuel pending (.union sofar set) rest
      | none => none

def read? (modes : Modes) (text : List Char) : Option (CharSet × List Char) := do
  let (negated, first, rest) := opening modes text
  let (set, rest) ← elements? modes (text.length + 1) none first rest
  let set ← close? modes negated set
  some (set, rest)

end Criteria.Pattern.Brackets
