import RecordExpr.Decimal.Basic

/-!
# Rounding to the nearest decimal

`Decimal.ofRatio negative n d` is the decimal nearest to `n / d` units, a tie going to the neighbour
with an even last bit. Every result that is not exact goes through it: arithmetic, conversion of
whole numbers and reading of digits.
-/

namespace RecordExpr.Decimal

/-- The integer nearest to `n / d`, a tie going to the even one. -/
def roundHalfEven (n d : Nat) : Nat :=
  let q := n / d
  let r := n % d
  if 2 * r < d then q else if d < 2 * r then q + 1 else q + q % 2

/-- How many bits of `n / d` lie beyond the 53 that a significand holds. -/
def excessBits (n d : Nat) : Nat := (n / d).log2 - 52

/-- The magnitude nearest to `n / d` units. A significand that is rounded up to `2^53` carries into
the exponent, and what is beyond the largest finite decimal becomes infinite. -/
def nearestMagnitude (n d : Nat) : Nat :=
  let k := excessBits n d
  min infiniteMagnitude ((k <<< 52) + roundHalfEven n (d <<< k))

/-- The decimal nearest to `n / d` units. -/
def ofRatio (negative : Bool) (n d : Nat) : Decimal := ofMagnitude negative (nearestMagnitude n d)

/-- The decimal nearest to an integer. -/
def ofInt (n : Int) : Decimal := ofRatio (n < 0) (n.natAbs * one) 1

end RecordExpr.Decimal
