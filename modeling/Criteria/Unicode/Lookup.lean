import Criteria.CharSet
import Criteria.Unicode.Age
import Criteria.Unicode.Category
import Criteria.Unicode.Letter
import Criteria.Unicode.Property
import Criteria.Unicode.Script
import Criteria.Unicode.ScriptExtension
import Criteria.Unicode.Segmentation

/-!
Finding sets of characters by the names of Unicode properties and of their values. Names are compared
loosely: case, blanks, hyphens and underscores do not count, nor does a leading "is". The classes of
characters stay with Unicode 16, while the names of groups follow Unicode 17; what the later version
added to the letters and the numbers is listed at the end.
-/
namespace Criteria.Unicode

def foldLetters (name : List Char) : List Char :=
  (name.filter fun c => c != ' ' && c != '_' && c != '-' && decide (c.toNat < 128)).map Char.toLower

/-- A name as it is compared. "isc" keeps its prefix, being the short name of a property of its own. -/
def foldName (name : List Char) : String :=
  match name with
  | i :: s :: rest =>
    if i.toLower = 'i' ∧ s.toLower = 's' then
      if foldLetters rest = ['c'] then "isc" else String.ofList (foldLetters rest)
    else String.ofList (foldLetters name)
  | _ => String.ofList (foldLetters name)

def PropertySet.chars (set : PropertySet) : CharSet := .ranges set.ranges

def categoryGroups : List (List String × List String) := [
  (["c", "other"], ["cc", "cf", "cn", "co"]),
  (["l", "letter"], ["lu", "ll", "lt", "lm", "lo"]),
  (["lc", "casedletter"], ["lu", "ll", "lt"]),
  (["m", "mark", "combiningmark"], ["mn", "mc", "me"]),
  (["n", "number"], ["nd", "nl", "no"]),
  (["p", "punctuation", "punct"], ["pc", "pd", "ps", "pe", "pi", "pf", "po"]),
  (["s", "symbol"], ["sm", "sc", "sk", "so"]),
  (["z", "separator"], ["zs", "zl", "zp"])]

def generalCategory? (name : String) : Option CharSet :=
  match named? name categories with
  | some set => some set.chars
  | none =>
    match categoryGroups.find? fun group => group.1.contains name with
    | some group =>
      some (.ranges (group.2.flatMap fun part => ((named? part categories).map (·.ranges)).getD []))
    | none => none

def category? (name : String) : Option CharSet :=
  if name = "any" then some (.ranges [(0, 0x10FFFF)])
  else if name = "ascii" then some (.ranges [(0, 0x7F)])
  else if name = "assigned" then (generalCategory? "cn").map .complement
  else generalCategory? name

def binary? (name : String) : Option CharSet :=
  ((named? name smallProperties).or (named? name letterProperties)).map (·.chars)

def script? (name : String) : Option CharSet := (named? name scripts).map (·.chars)

def ageUpTo? (name : String) : List PropertySet → Option CharSet
  | [] => none
  | version :: later =>
    if version.names.contains name then some version.chars
    else (ageUpTo? name later).map fun rest => .union version.chars rest

/-- The set named by one word: a binary property, else a general category, else a script. The names
"cf", "lc" and "sc" always mean categories. -/
def byName? (name : List Char) : Option CharSet :=
  let name := foldName name
  let property := if ["cf", "lc", "sc"].contains name then none else binary? name
  property.or ((category? name).or (script? name))

def byValue? (property value : List Char) : Option CharSet :=
  let property := foldName property
  let value := foldName value
  if ["gc", "generalcategory"].contains property then category? value
  else if ["sc", "script"].contains property then script? value
  else if ["scx", "scriptextensions"].contains property then (named? value scriptExtensions).map (·.chars)
  else if property = "age" then ageUpTo? value ages
  else if ["gcb", "graphemeclusterbreak"].contains property then (named? value graphemeBreaks).map (·.chars)
  else if ["wb", "wordbreak"].contains property then (named? value wordBreaks).map (·.chars)
  else if ["sb", "sentencebreak"].contains property then (named? value sentenceBreaks).map (·.chars)
  else none

def whiteSpace : CharSet := .ranges [(9, 13), (32, 32), (133, 133), (160, 160), (5760, 5760),
  (8192, 8202), (8232, 8233), (8239, 8239), (8287, 8287), (12288, 12288)]

def isWhiteSpace (c : Char) : Bool := whiteSpace.contains c

def property (set? : Option CharSet) : CharSet := set?.getD .empty

def decimalDigits : CharSet := property (generalCategory? "nd")

def alphabetic : CharSet := property (binary? "alphabetic")

def numeric : CharSet := property (generalCategory? "n")

def wordCharacters : CharSet :=
  .union alphabetic (.union (property (generalCategory? "m")) (.union decimalDigits
    (.union (property (generalCategory? "pc")) (property (binary? "joincontrol")))))

def asciiDigits : CharSet := .ranges [(48, 57)]

def asciiSpace : CharSet := .ranges [(9, 13), (32, 32)]

def asciiWord : CharSet := .ranges [(48, 57), (65, 90), (95, 95), (97, 122)]

def newLetters : CharSet := .ranges [(2191, 2191), (3164, 3164), (3292, 3292), (42958, 42959),
  (42962, 42962), (42964, 42964), (42993, 42993), (67904, 67929), (69317, 69319), (69370, 69371),
  (72544, 72551), (73136, 73179), (93856, 93880), (93883, 93907), (94194, 94198), (100344, 100351),
  (101641, 101662), (101760, 101874), (124608, 124638), (124640, 124661), (124670, 124671),
  (177978, 177983), (183970, 183981), (205744, 210041)]

def newNumbers : CharSet := .ranges [(73184, 73193), (94196, 94198)]

def letters : CharSet := .union alphabetic newLetters

def figures : CharSet := .union numeric newNumbers

def isAlphabetic (c : Char) : Bool := c.isAlpha || (decide (128 ≤ c.toNat) && letters.contains c)

def isAlphanumeric (c : Char) : Bool :=
  isAlphabetic c || c.isDigit || (decide (128 ≤ c.toNat) && figures.contains c)

end Criteria.Unicode
