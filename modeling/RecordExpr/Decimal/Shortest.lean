import RecordExpr.Decimal.Basic
import RecordExpr.Text.Digits

/-!
# The shortest text of a decimal

A finite decimal is printed with the fewest digits that read back as the same number; of several
such digit strings the one nearest to the number is taken, and of two equally near ones the larger.
All digits are written out, without a power of ten, and at least one digit stands after the point.

Lengths are measured in quarters of a unit, so that the midpoints between neighbours are whole.
-/

namespace RecordExpr.Decimal

/-- Quarter units in one. -/
def quartersInOne : Nat := 4 * one

/-- The numbers that round to a given decimal, in quarter units: from `low` to `high`, the ends
included or not. -/
structure RoundingInterval where
  low : Nat
  value : Nat
  high : Nat
  closed : Bool

/-- The numbers that round to a positive finite decimal. The gap below a power of two is half the
one above it, and a midpoint rounds to the decimal whose last bit is even. -/
def roundingInterval (d : Decimal) : RoundingInterval :=
  let gap := 2 <<< d.scale
  let below := if d.fraction = 0 ∧ 1 < d.exponentField then gap / 2 else gap
  { low := 4 * d.unitCount - below
    value := 4 * d.unitCount
    high := 4 * d.unitCount + gap
    closed := d.fraction % 2 = 0 }

namespace RoundingInterval

/-- Whether `n / d` quarter units lie in the interval. -/
def contains (i : RoundingInterval) (n d : Nat) : Bool :=
  if i.closed then i.low * d ≤ n && n ≤ i.high * d else i.low * d < n && n < i.high * d

end RoundingInterval

/-- The place of the leading digit: the least `p` with `value < 10^p`, for a value given in quarter
units. -/
def leadingPlace (value : Nat) : Int :=
  if quartersInOne ≤ value then (Text.natDigits (value / quartersInOne)).length
  else 1 - ((Text.natDigits ((quartersInOne - 1) / value)).length : Int)

/-- The nearest multiple of `10^p` in the interval, as a number of such multiples. -/
def candidate? (i : RoundingInterval) (p : Int) : Option Nat :=
  -- one multiple of the power is `n / d` quarter units
  let n := quartersInOne * Nat.pow 10 p.toNat
  let d := Nat.pow 10 (-p).toNat
  let down := i.value * d / n
  let up := down + 1
  let upNearer := n ≤ 2 * (i.value * d - down * n)
  match i.contains (down * n) d, i.contains (up * n) d with
  | true, true => some (if upNearer then up else down)
  | true, false => some down
  | false, true => some up
  | false, false => none

/-- The shortest digits `m` and the power `p` of their last place, for a positive finite decimal.
Seventeen digits always suffice. -/
def shortest (d : Decimal) : Nat × Int :=
  let i := roundingInterval d
  let top := leadingPlace i.value
  let found := (List.range 17).findSome? fun (k : Nat) =>
    let p := top - (k + 1)
    (candidate? i p).map (·, p)
  found.getD (0, 0)

/-- The digits of `m` times ten to the power `p`, all of them. A number with a fraction has a digit
on both sides of the point. -/
def positional (m : Nat) (p : Int) : List Char :=
  let ds := Text.natDigits m
  if 0 ≤ p then ds ++ List.replicate p.toNat '0'
  else
    let places := (-p).toNat
    if places < ds.length then ds.take (ds.length - places) ++ '.' :: ds.drop (ds.length - places)
    else '0' :: '.' :: (List.replicate (places - ds.length) '0' ++ ds)

/-- Divides out the factors of ten that `m` has. -/
def stripZeros : Nat → Nat → Int → Nat × Int
  | 0, m, p => (m, p)
  | fuel + 1, m, p => if m ≠ 0 ∧ m % 10 = 0 then stripZeros fuel (m / 10) (p + 1) else (m, p)

/-- The text of the magnitude of a finite decimal, without a point for an integer. -/
def magnitudeText (d : Decimal) : List Char :=
  if d.isZero then ['0']
  else
    let (m, p) := shortest d
    let (m, p) := stripZeros 17 m p
    positional m p

/-- The text of a decimal without a point for an integer; the words for the numbers that have no
digits are `NaN` and `inf`. -/
def plainText (d : Decimal) : List Char :=
  if d.isNaN then "NaN".toList
  else
    (if d.isNegative then ['-'] else []) ++
      (if d.isInfinite then "inf".toList else d.magnitudeText)

/-- The text of a decimal without a point for an integer. -/
def renderPlain (d : Decimal) : String := String.ofList d.plainText

/-- The text of a decimal, which always has a fraction if the decimal is finite. -/
def render (d : Decimal) : String :=
  let text := d.plainText
  String.ofList (if d.isFinite ∧ '.' ∉ text then text ++ ['.', '0'] else text)

end RecordExpr.Decimal
