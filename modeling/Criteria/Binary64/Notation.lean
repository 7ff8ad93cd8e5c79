import Criteria.Binary64.Shortest

/-!
How a double is written in decimal: its shortest digits, laid out by a style that says where
positional notation ends and what a whole number looks like.
-/
namespace Criteria.Binary64

/-- The decisions of a decimal layout. `positional` is asked about the exponent of the leading
digit. -/
structure DecimalStyle where
  tie : Tie
  positional : Int → Bool
  keepsFraction : Bool

namespace DecimalStyle

def positionalText (style : DecimalStyle) (digits : List Char) (point : Int) : List Char :=
  let fraction (part : List Char) : List Char :=
    if part.isEmpty then (if style.keepsFraction then ['.', '0'] else []) else '.' :: part
  if point ≤ 0 then '0' :: fraction (List.replicate (-point).toNat '0' ++ digits)
  else
    let whole := point.toNat
    digits.take whole ++ List.replicate (whole - digits.length) '0' ++ fraction (digits.drop whole)

def scientificText (digits : List Char) (exponent : Int) : List Char :=
  let mantissa := match digits with
    | [] => []
    | [digit] => [digit]
    | digit :: rest => digit :: '.' :: rest
  let sign := if exponent < 0 then '-' else '+'
  mantissa ++ 'e' :: sign :: Nat.toDigits 10 exponent.natAbs

def write (style : DecimalStyle) (x : Binary64) : String :=
  let body :=
    if x.significand = 0 then style.positionalText ['0'] 1
    else
      let decimal := shortest style.tie x
      let digits := Nat.toDigits 10 decimal.coefficient
      let leading := digits.length + decimal.exponent - 1
      if style.positional leading then style.positionalText digits (leading + 1)
      else scientificText digits leading
  String.ofList (if x.negative then '-' :: body else body)

end DecimalStyle

end Criteria.Binary64
