import RecordExpr.Decimal.Rounding

/-!
# Arithmetic of decimals

The operations of IEEE 754 with rounding to nearest: each computes the exact result in units and
rounds it once. A remainder is exact.
-/

namespace RecordExpr.Decimal

/-- The decimal with a number of units that may need rounding, a zero taking the given sign. -/
private def ofUnits (u : Int) (zeroSign : Bool) : Decimal :=
  if u = 0 then zero zeroSign else ofRatio (u < 0) u.natAbs 1

/-- The number with its sign turned. -/
def neg (a : Decimal) : Decimal := ofMagnitude (!a.isNegative) a.magnitude

def add (a b : Decimal) : Decimal :=
  if a.isNaN || b.isNaN then nan
  else if a.isInfinite then
    if b.isInfinite && a.isNegative != b.isNegative then nan else a
  else if b.isInfinite then b
  else ofUnits (a.units + b.units) (a.isNegative && b.isNegative)

def sub (a b : Decimal) : Decimal := if b.isNaN then nan else add a (neg b)

def mul (a b : Decimal) : Decimal :=
  let negative := a.isNegative != b.isNegative
  if a.isNaN || b.isNaN then nan
  else if a.isInfinite || b.isInfinite then
    if a.isZero || b.isZero then nan else infinity negative
  else ofRatio negative (a.unitCount * b.unitCount) one

def div (a b : Decimal) : Decimal :=
  let negative := a.isNegative != b.isNegative
  if a.isNaN || b.isNaN then nan
  else if a.isInfinite then if b.isInfinite then nan else infinity negative
  else if b.isInfinite then zero negative
  else if b.isZero then if a.isZero then nan else infinity negative
  else ofRatio negative (a.unitCount * one) b.unitCount

/-- What is left of `a` after its whole multiples of `b`, with the sign of `a`. -/
def rem (a b : Decimal) : Decimal :=
  if a.isNaN || b.isNaN || a.isInfinite || b.isZero then nan
  else if b.isInfinite then a
  else ofRatio a.isNegative (a.unitCount % b.unitCount) 1

end RecordExpr.Decimal
