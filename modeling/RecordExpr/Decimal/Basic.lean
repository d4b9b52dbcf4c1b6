/-!
# Decimals

A decimal is a binary64 number of IEEE 754, kept as its 64 bits. Every finite decimal is a whole
multiple of the least positive one, `2^-1074`. So a finite decimal is an integer here, its number of
*units*, and arithmetic, comparison, reading and printing are arithmetic on integers.

The main definitions are `Decimal.units`, the signed number of units of a finite decimal, and
`Decimal.compare?`, which orders everything but NaN.
-/

namespace RecordExpr

/-- A binary64 number. -/
structure Decimal where
  bits : UInt64
  deriving DecidableEq

namespace Decimal

/-! ### The parts of the bit pattern -/

/-- The sign bit. -/
def isNegative (d : Decimal) : Bool := 1 <<< 63 ≤ d.bits.toNat

/-- The bits below the sign. Of two decimals of one sign, neither NaN, that of the larger magnitude
has the larger number here. -/
def magnitude (d : Decimal) : Nat := d.bits.toNat % (1 <<< 63)

/-- The biased exponent. -/
def exponentField (d : Decimal) : Nat := d.magnitude / (1 <<< 52)

/-- The bits after the binary point. -/
def fraction (d : Decimal) : Nat := d.magnitude % (1 <<< 52)

/-- The magnitude of the infinities; larger ones belong to NaN. -/
def infiniteMagnitude : Nat := 2047 <<< 52

/-- The decimal with a given sign and magnitude. -/
def ofMagnitude (negative : Bool) (m : Nat) : Decimal :=
  ⟨UInt64.ofNat ((if negative then 1 <<< 63 else 0) + m)⟩

def isNaN (d : Decimal) : Bool := infiniteMagnitude < d.magnitude

def isInfinite (d : Decimal) : Bool := d.magnitude == infiniteMagnitude

def isFinite (d : Decimal) : Bool := d.magnitude < infiniteMagnitude

/-- Both zeros, of either sign. -/
def isZero (d : Decimal) : Bool := d.magnitude == 0

/-- The quiet NaN. -/
def nan : Decimal := ofMagnitude false (infiniteMagnitude + (1 <<< 51))

def infinity (negative : Bool) : Decimal := ofMagnitude negative infiniteMagnitude

def zero (negative : Bool) : Decimal := ofMagnitude negative 0

/-! ### The value of a finite decimal -/

/-- The power of two by which the significand is scaled, counted from the least unit. -/
def scale (d : Decimal) : Nat := d.exponentField - 1

/-- The significand with its leading bit, which subnormal numbers lack. -/
def significand (d : Decimal) : Nat :=
  if d.exponentField = 0 then d.fraction else (1 <<< 52) + d.fraction

/-- How many times `2^-1074` the magnitude of a finite decimal is. -/
def unitCount (d : Decimal) : Nat := d.significand <<< d.scale

/-- The value of a finite decimal in units of `2^-1074`. -/
def units (d : Decimal) : Int := if d.isNegative then -d.unitCount else d.unitCount

/-- Units in one. -/
def one : Nat := 1 <<< 1074

/-- The part of a finite decimal before the point, with its sign. -/
def truncated (d : Decimal) : Int := d.units.tdiv one

/-- How many bits of the significand stand after the binary point. -/
def bitsAfterPoint (d : Decimal) : Nat := 1075 - d.exponentField

/-- The decimal without what stands after the point. Infinities and NaN have nothing there. -/
def trunc (d : Decimal) : Decimal :=
  let k := d.bitsAfterPoint
  if 52 < k then zero d.isNegative else ofMagnitude d.isNegative ((d.magnitude >>> k) <<< k)

/-! ### Order -/

/-- A key that orders everything but NaN; the two zeros share it. -/
def orderKey (d : Decimal) : Int := if d.isNegative then -d.magnitude else d.magnitude

/-- The order of two decimals; NaN is comparable with nothing, itself included. -/
def compare? (a b : Decimal) : Option Ordering :=
  if a.isNaN || b.isNaN then none else some (compare a.orderKey b.orderKey)

/-- Whether the first of two numbers is the smaller one. -/
def lt (a b : Decimal) : Bool := compare? a b == some .lt

/-- Whether the first of two numbers is the smaller one, or they are equal. -/
def le (a b : Decimal) : Bool := compare? a b == some .lt || compare? a b == some .eq

/-- Equality of numbers: NaN is unequal to itself, and the two zeros are equal. -/
def numEq (a b : Decimal) : Bool := compare? a b == some .eq

end Decimal

end RecordExpr
