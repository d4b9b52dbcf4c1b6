/-!
# Decimal digits

Reading a run of ASCII digits as a natural number, and writing a natural number as such a run,
padded on the left where a width asks for it.
-/

namespace RecordExpr.Text

/-- The number that a list of ASCII digits stands for, the first digit being the highest. -/
def digitsValue (cs : List Char) : Nat := cs.foldl (fun n c => 10 * n + (c.toNat - '0'.toNat)) 0

/-- The decimal digits of a number, without leading zeros. -/
def natDigits (n : Nat) : List Char := Nat.toDigits 10 n

/-- A minus sign for a negative number, then the digits. -/
def intDigits (n : Int) : List Char :=
  if n < 0 then '-' :: natDigits n.natAbs else natDigits n.natAbs

/-- The text filled up on the left to at least `width` characters. -/
def padLeft (width : Nat) (fill : Char) (cs : List Char) : List Char :=
  List.replicate (width - cs.length) fill ++ cs

/-- The digits of a number with zeros in front up to `width`. -/
def zeroPadded (width n : Nat) : List Char := padLeft width '0' (natDigits n)

/-- The leading run of at most `limit` digits, and the rest. -/
def spanDigits (limit : Nat) (cs : List Char) : List Char × List Char :=
  let run := (cs.take limit).takeWhile Char.isDigit
  (run, cs.drop run.length)

end RecordExpr.Text
