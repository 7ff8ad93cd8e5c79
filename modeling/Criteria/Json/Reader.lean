import Criteria.Binary64.Rounding
import Criteria.Json.Basic
import Criteria.Text

/-!
Reading JSON text, strictly by the grammar of the format: no comments, no trailing commas, no leading
zeros, no raw control characters and no lone surrogates. Of two fields with one name the later one
stays. Lists and objects may be nested only to a depth that the caller gives; each level of nesting
spends one unit of it, so that reading ends by recursion on the depth that is left.
-/
namespace Criteria.Json

-- See the note on powers in Criteria.Binary64.Basic.
attribute [local instance (high)] instPowNat

namespace Reader

def isBlank (c : Char) : Bool := c == ' ' || c == '\t' || c == '\n' || c == '\r'

def skipBlanks (text : List Char) : List Char := text.dropWhile isBlank

def after? (word : List Char) (text : List Char) : Option (List Char) :=
  if word.isPrefixOf text then some (text.drop word.length) else none

def digits? (text : List Char) : Option (List Char × List Char) :=
  match text.takeWhile Char.isDigit with
  | [] => none
  | digits => some (digits, text.dropWhile Char.isDigit)

def wholePart? (text : List Char) : Option (List Char × List Char) :=
  match digits? text with
  | some ('0' :: _ :: _, _) => none
  | other => other

def fractionPart? : List Char → Option (Option (List Char) × List Char)
  | '.' :: rest => (digits? rest).map fun part => (some part.1, part.2)
  | text => some (none, text)

def powerOfTen? : List Char → Option (Int × List Char)
  | '-' :: rest => (digits? rest).map fun part => (-(Text.decimal part.1 : Int), part.2)
  | '+' :: rest => (digits? rest).map fun part => ((Text.decimal part.1 : Int), part.2)
  | text => (digits? text).map fun part => ((Text.decimal part.1 : Int), part.2)

def exponentPart? : List Char → Option (Option Int × List Char)
  | 'e' :: rest => (powerOfTen? rest).map fun part => (some part.1, part.2)
  | 'E' :: rest => (powerOfTen? rest).map fun part => (some part.1, part.2)
  | text => some (none, text)

def float? (negative : Bool) (digits : Nat) (exponent : Int) : Option Number :=
  let nearest := Binary64.ofDecimal negative digits exponent
  if finite : nearest.isFinite = true then some (.float nearest finite) else none

/-- A number without fraction and exponent: an integer where 64 bits hold it. Minus zero and anything
longer is a float. -/
def integer? (negative : Bool) (magnitude : Nat) : Option Number :=
  let n : Int := if negative then -magnitude else magnitude
  if negative && magnitude == 0 then float? true 0 0
  else if inRange : -2 ^ (63 : Nat) ≤ n ∧ n < 2 ^ (64 : Nat) then some (.int n inRange)
  else float? negative magnitude 0

def unsigned? (negative : Bool) (text : List Char) : Option (Number × List Char) := do
  let (whole, text) ← wholePart? text
  let (fraction, text) ← fractionPart? text
  let (exponent, text) ← exponentPart? text
  let number ← match fraction, exponent with
    | none, none => integer? negative (Text.decimal whole)
    | _, _ =>
      let places := fraction.getD []
      float? negative (Text.decimal (whole ++ places)) (exponent.getD 0 - places.length)
  some (number, text)

def number? : List Char → Option (Number × List Char)
  | '-' :: rest => unsigned? true rest
  | text => unsigned? false text

def unit? : List Char → Option (Nat × List Char)
  | a :: b :: c :: d :: rest => do
    let a ← Text.hexDigit? a
    let b ← Text.hexDigit? b
    let c ← Text.hexDigit? c
    let d ← Text.hexDigit? d
    some (((a * 16 + b) * 16 + c) * 16 + d, rest)
  | _ => none

/-- The character written by the escape after `\u`: one unit, or two that form a surrogate pair. -/
def codePoint? (text : List Char) : Option (Char × List Char) := do
  let (high, text) ← unit? text
  if 0xD800 ≤ high ∧ high < 0xDC00 then
    match text with
    | '\\' :: 'u' :: text =>
      let (low, text) ← unit? text
      if 0xDC00 ≤ low ∧ low < 0xE000 then
        some (Char.ofNat (0x10000 + (high - 0xD800) * 0x400 + (low - 0xDC00)), text)
      else none
    | _ => none
  else if 0xDC00 ≤ high ∧ high < 0xE000 then none
  else some (Char.ofNat high, text)

def shortEscape? (letter : Char) : Option Char :=
  if letter = '"' ∨ letter = '\\' ∨ letter = '/' then some letter
  else if letter = 'b' then some '\x08'
  else if letter = 'f' then some '\x0c'
  else if letter = 'n' then some '\n'
  else if letter = 'r' then some '\r'
  else if letter = 't' then some '\t'
  else none

def character? : List Char → Option (Char × List Char)
  | '\\' :: 'u' :: rest => codePoint? rest
  | '\\' :: letter :: rest => (shortEscape? letter).map fun c => (c, rest)
  | c :: rest => if c.toNat < 32 ∨ c = '\\' then none else some (c, rest)
  | [] => none

/-- The characters of a string up to its closing quote; every step takes at least one character off
the text, so its length is fuel enough. -/
def characters? : Nat → List Char → Option (List Char × List Char)
  | _, '"' :: rest => some ([], rest)
  | fuel + 1, text => do
    let (first, text) ← character? text
    let (others, text) ← characters? fuel text
    some (first :: others, text)
  | 0, _ => none

def string? (text : List Char) : Option (String × List Char) :=
  (characters? text.length text).map fun read => (String.ofList read.1, read.2)

def items? (item? : List Char → Option (Json × List Char)) :
    Nat → List Char → Option (List Json × List Char)
  | 0, _ => none
  | fuel + 1, text => do
    let (first, text) ← item? text
    match skipBlanks text with
    | ',' :: text =>
      let (others, text) ← items? item? fuel text
      some (first :: others, text)
    | ']' :: text => some ([first], text)
    | _ => none

def name? (text : List Char) : Option (String × List Char) :=
  match skipBlanks text with
  | '"' :: text => do
    let (name, text) ← string? text
    match skipBlanks text with
    | ':' :: text => some (name, text)
    | _ => none
  | _ => none

def entries? (value? : List Char → Option (Json × List Char)) :
    Nat → List Char → Option (List (String × Json) × List Char)
  | 0, _ => none
  | fuel + 1, text => do
    let (name, text) ← name? text
    let (value, text) ← value? text
    match skipBlanks text with
    | ',' :: text =>
      let (others, text) ← entries? value? fuel text
      some ((name, value) :: others, text)
    | '\x7d' :: text => some ([(name, value)], text)
    | _ => none

def array? (item? : List Char → Option (Json × List Char)) (text : List Char) :
    Option (Json × List Char) :=
  match skipBlanks text with
  | ']' :: text => some (.array [], text)
  | text => (items? item? text.length text).map fun read => (.array read.1, read.2)

def object? (value? : List Char → Option (Json × List Char)) (text : List Char) :
    Option (Json × List Char) :=
  match skipBlanks text with
  | '\x7d' :: text => some (.object [], text)
  | text => (entries? value? text.length text).map fun read => (.object (Fields.ofEntries read.1), read.2)

def scalar? (text : List Char) : Option (Json × List Char) :=
  match text with
  | '"' :: text => (string? text).map fun read => (.string read.1, read.2)
  | 'n' :: _ => (after? ['n', 'u', 'l', 'l'] text).map fun rest => (.null, rest)
  | 't' :: _ => (after? ['t', 'r', 'u', 'e'] text).map fun rest => (.bool true, rest)
  | 'f' :: _ => (after? ['f', 'a', 'l', 's', 'e'] text).map fun rest => (.bool false, rest)
  | _ => (number? text).map fun read => (.number read.1, read.2)

/-- A tree with at most `levels` lists and objects inside one another, and the text after it. -/
def tree? : (levels : Nat) → List Char → Option (Json × List Char)
  | levels, text =>
    match skipBlanks text with
    | '[' :: rest =>
      match levels with
      | 0 => none
      | inner + 1 => array? (tree? inner) rest
    | '\x7b' :: rest =>
      match levels with
      | 0 => none
      | inner + 1 => object? (tree? inner) rest
    | other => scalar? other

def finished (text : List Char) : Bool := (skipBlanks text).isEmpty

end Reader

def ofChars? (levels : Nat) (text : List Char) : Option Json :=
  match Reader.tree? levels text with
  | some (tree, rest) => if Reader.finished rest then some tree else none
  | none => none

def levelLimit : Nat := 127

def ofText? (text : String) : Option Json := ofChars? levelLimit text.toList

def leading? (text : String) : Option (Json × List Char) := Reader.tree? levelLimit text.toList

end Criteria.Json
