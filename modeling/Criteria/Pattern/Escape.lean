import Criteria.Pattern.Modes
import Criteria.Text

/-!
What a backslash introduces: a character taken literally or given by its code point, a class of
characters, or a condition on the position.
-/
namespace Criteria.Pattern

inductive Escape where
  /-- A character; `byte` says that it was written by two hexadecimal digits. -/
  | char (c : Char) (byte : Bool)
  | oneOf (members : CharSet)
  | look (condition : Look)

namespace Escape

def isEscapable (c : Char) : Bool :=
  decide (c.toNat < 128) && !c.isAlphanum && c != '<' && c != '>'

def charOf? (codePoint : Nat) : Option Char :=
  if codePoint < 0xD800 ∨ (0xDFFF < codePoint ∧ codePoint < 0x110000) then some (Char.ofNat codePoint)
  else none

def fixedHex? (modes : Modes) : (count value : Nat) → List Char → Option (Nat × List Char)
  | 0, value, text => some (value, text)
  | count + 1, value, text =>
    match modes.skip text with
    | [] => none
    | c :: rest =>
      match Text.hexDigit? c with
      | some digit => fixedHex? modes count (value * 16 + digit) rest
      | none => none

/-- The number written by hexadecimal digits up to a closing brace, after the value read so far.
`value?` is missing before the first digit. -/
def bracedHex? (modes : Modes) : (fuel : Nat) → (value? : Option Nat) → List Char → Option (Nat × List Char)
  | 0, _, _ => none
  | fuel + 1, value?, text =>
    match modes.skip text with
    | [] => none
    | '\x7d' :: rest => value?.map fun value => (value, rest)
    | c :: rest =>
      match Text.hexDigit? c with
      | some digit => bracedHex? modes fuel (some (value?.getD 0 * 16 + digit)) rest
      | none => none

def codePoint? (modes : Modes) (letter : Char) (text : List Char) : Option (Escape × List Char) := do
  let digits := if letter = 'x' then 2 else if letter = 'u' then 4 else 8
  match modes.skip text with
  | '\x7b' :: rest =>
    let (value, rest) ← bracedHex? modes (rest.length + 1) none rest
    let c ← charOf? value
    some (.char c false, rest)
  | text =>
    let (value, rest) ← fixedHex? modes digits 0 text
    let c ← charOf? value
    some (.char c (letter == 'x'), rest)

def braced? (modes : Modes) : (fuel : Nat) → List Char → Option (List Char × List Char)
  | 0, _ => none
  | fuel + 1, text =>
    match modes.skip text with
    | [] => none
    | '\x7d' :: rest => some ([], rest)
    | c :: rest => (braced? modes fuel rest).map fun read => (c :: read.1, read.2)

def cutAt? (mark : List Char) : List Char → Option (List Char × List Char)
  | [] => none
  | c :: rest =>
    if mark.isPrefixOf (c :: rest) then some ([], (c :: rest).drop mark.length)
    else (cutAt? mark rest).map fun read => (c :: read.1, read.2)

/-- A property by its name, or by its name and value; whether the value is excluded comes first. -/
def property? (name : List Char) : Option (Bool × CharSet) :=
  match cutAt? ['!', '='] name with
  | some (property, value) => (Unicode.byValue? property value).map fun set => (true, set)
  | none =>
    match (cutAt? [':'] name).or (cutAt? ['='] name) with
    | some (property, value) => (Unicode.byValue? property value).map fun set => (false, set)
    | none => (Unicode.byName? name).map fun set => (false, set)

def propertyClass? (modes : Modes) (negated : Bool) (text : List Char) : Option (Escape × List Char) := do
  let (name, rest) ← match modes.skip text with
    | [] => none
    | '\x7b' :: rest => braced? modes (rest.length + 1) rest
    | '\\' :: _ => none
    | c :: rest => some ([c], rest)
  let (excluded, set) ← property? name
  if modes.unicode then
    let set ← modes.negate? (negated != excluded) (modes.fold set)
    some (.oneOf set, rest)
  else none

def letterClass? (modes : Modes) (letter : Char) : Option CharSet :=
  let set := match letter.toLower with
    | 'd' => if modes.unicode then Unicode.decimalDigits else Unicode.asciiDigits
    | 's' => if modes.unicode then Unicode.whiteSpace else Unicode.asciiSpace
    | _ => if modes.unicode then Unicode.wordCharacters else Unicode.asciiWord
  modes.negate? letter.isUpper set

def isEdgeLetter (c : Char) : Bool := c.isAlpha || c == '-'

def edgeName (modes : Modes) : (fuel : Nat) → List Char → List Char × List Char
  | 0, text => ([], text)
  | fuel + 1, text =>
    match text with
    | c :: rest =>
      if isEdgeLetter c then
        let (name, rest) := edgeName modes fuel (modes.skip rest)
        (c :: name, rest)
      else ([], text)
    | [] => ([], [])

def edge? (name : List Char) : Option WordEdge :=
  if name = ['s', 't', 'a', 'r', 't'] then some .start
  else if name = ['e', 'n', 'd'] then some .finish
  else if name = ['s', 't', 'a', 'r', 't', '-', 'h', 'a', 'l', 'f'] then some .startHalf
  else if name = ['e', 'n', 'd', '-', 'h', 'a', 'l', 'f'] then some .finishHalf
  else none

/-- A word boundary, possibly of a named sort. A brace that no letter or hyphen follows belongs to a
repetition and is left alone. -/
def wordBoundary? (modes : Modes) (text : List Char) : Option (Escape × List Char) :=
  match text with
  | '\x7b' :: inside =>
    match modes.skip inside with
    | [] => none
    | c :: rest =>
      if isEdgeLetter c then
        match edgeName modes (rest.length + 1) (c :: rest) with
        | (name, '\x7d' :: rest) =>
          (edge? name).map fun edge => (.look (.word edge (!modes.unicode)), rest)
        | _ => none
      else some (.look (.word .boundary (!modes.unicode)), text)
  | _ => some (.look (.word .boundary (!modes.unicode)), text)

def read? (modes : Modes) : List Char → Option (Escape × List Char)
  | [] => none
  | c :: rest =>
    if isEscapable c then some (.char c false, rest)
    else match c with
      | 'x' | 'u' | 'U' => codePoint? modes c rest
      | 'p' => propertyClass? modes false rest
      | 'P' => propertyClass? modes true rest
      | 'd' | 's' | 'w' | 'D' | 'S' | 'W' => (letterClass? modes c).map fun set => (.oneOf set, rest)
      | 'a' => some (.char '\x07' false, rest)
      | 'f' => some (.char '\x0c' false, rest)
      | 't' => some (.char '\t' false, rest)
      | 'n' => some (.char '\n' false, rest)
      | 'r' => some (.char '\r' false, rest)
      | 'v' => some (.char '\x0b' false, rest)
      | 'A' => some (.look .textStart, rest)
      | 'z' => some (.look .textEnd, rest)
      | 'b' => wordBoundary? modes rest
      | 'B' => some (.look (.word .inside (!modes.unicode)), rest)
      | '<' => some (.look (.word .start (!modes.unicode)), rest)
      | '>' => some (.look (.word .finish (!modes.unicode)), rest)
      | _ => none

end Escape

end Criteria.Pattern
