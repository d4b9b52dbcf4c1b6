import RecordExpr.Decimal.Rounding
import RecordExpr.Text.Blank
import RecordExpr.Text.Digits

/-!
# Reading decimals

A decimal is written as an optional sign and then either the word `inf`, `infinity` or `nan` in any
mixture of cases, or digits with an optional point and an optional power of ten. There must be a
digit before or after the point. The number read is the decimal nearest to what is written.
-/

namespace RecordExpr.Decimal

/-- The decimal nearest to `m` times ten to the power `e`. Powers far outside the range are cut
short: with them the number is infinite or zero. -/
def ofScientific (negative : Bool) (m : Nat) (e : Int) : Decimal :=
  if m = 0 then zero negative
  else
    let top := (Text.natDigits m).length + e
    if 400 < top then infinity negative
    else if top < -400 then zero negative
    else if 0 ≤ e then ofRatio negative (m * Nat.pow 10 e.toNat * one) 1
    else ofRatio negative (m * one) (Nat.pow 10 (-e).toNat)

/-- The sign in front of a number, and the rest. -/
def signOf : List Char → Bool × List Char
  | '-' :: cs => (true, cs)
  | '+' :: cs => (false, cs)
  | cs => (false, cs)

/-- The exponent after the letter `e`: a sign and one or more digits up to the end. -/
def exponentOf? (cs : List Char) : Option Int :=
  let (negative, ds) := signOf cs
  if ds ≠ [] ∧ ds.all Char.isDigit then
    some (if negative then -(Text.digitsValue ds : Int) else Text.digitsValue ds)
  else none

/-- The digits after the point, if there is one, and the rest. -/
def fractionOf : List Char → List Char × List Char
  | '.' :: cs => (cs.takeWhile Char.isDigit, cs.dropWhile Char.isDigit)
  | cs => ([], cs)

/-- Digits with an optional point and exponent. -/
def unsignedOf? (negative : Bool) (cs : List Char) : Option Decimal :=
  let whole := cs.takeWhile Char.isDigit
  let (places, rest) := fractionOf (cs.dropWhile Char.isDigit)
  if whole = [] ∧ places = [] then none
  else
    let m := Text.digitsValue (whole ++ places)
    match rest with
    | [] => some (ofScientific negative m (-places.length))
    | c :: ds =>
      if c = 'e' ∨ c = 'E' then
        (exponentOf? ds).map fun e => ofScientific negative m (e - places.length)
      else none

/-- Reads the decimal that a list of characters spells from end to end. -/
def ofChars? (cs : List Char) : Option Decimal :=
  let (negative, body) := signOf cs
  let word := String.ofList (body.map Char.toLower)
  if word == "inf" || word == "infinity" then some (infinity negative)
  else if word == "nan" then some nan
  else unsignedOf? negative body

/-- Reads a decimal; blanks around it do not count. -/
def parse? (s : String) : Option Decimal := ofChars? (Text.trimmed s.toList)

end RecordExpr.Decimal
