/-!
# Sets of characters

A set of characters is a list of ranges of code points. Sets that come from a union, an intersection
or a complement are normal: their ranges are in order, apart from each other and not adjacent.
-/

namespace RecordExpr.Unicode

/-- A set of characters, as ranges of code points with both ends included. -/
structure CharSet where
  ranges : List (Nat × Nat)
  deriving DecidableEq

namespace CharSet

/-- Whether a code point lies in one of the ranges. -/
def hasCode (s : CharSet) (n : Nat) : Bool := s.ranges.any fun r => r.1 ≤ n && n ≤ r.2

def contains (s : CharSet) (c : Char) : Bool := s.hasCode c.toNat

def empty : CharSet := ⟨[]⟩

/-- The largest code point. -/
def lastCode : Nat := 0x10FFFF

def full : CharSet := ⟨[(0, lastCode)]⟩

def singleton (c : Char) : CharSet := ⟨[(c.toNat, c.toNat)]⟩

def range (a b : Char) : CharSet := ⟨[(a.toNat, b.toNat)]⟩

/-- Merges ranges that are in order of their starts. -/
private def coalesce : List (Nat × Nat) → List (Nat × Nat) := go none
where
  go : Option (Nat × Nat) → List (Nat × Nat) → List (Nat × Nat)
    | none, [] => []
    | some r, [] => [r]
    | none, q :: qs => go (some q) qs
    | some r, q :: qs =>
      if q.1 ≤ r.2 + 1 then go (some (r.1, max r.2 q.2)) qs else r :: go (some q) qs

/-- The normal set of the characters in any of some ranges. -/
def ofRanges (rs : List (Nat × Nat)) : CharSet :=
  ⟨coalesce (rs.mergeSort fun a b => a.1 ≤ b.1)⟩

def union (s t : CharSet) : CharSet := ofRanges (s.ranges ++ t.ranges)

/-- The gaps of normal ranges from `start` on. -/
private def gaps (start : Nat) : List (Nat × Nat) → List (Nat × Nat)
  | [] => if start ≤ lastCode then [(start, lastCode)] else []
  | r :: rs => if start < r.1 then (start, r.1 - 1) :: gaps (r.2 + 1) rs else gaps (r.2 + 1) rs

/-- The characters outside a set. -/
def compl (s : CharSet) : CharSet := ⟨gaps 0 (ofRanges s.ranges).ranges⟩

def inter (s t : CharSet) : CharSet := (union s.compl t.compl).compl

def diff (s t : CharSet) : CharSet := inter s t.compl

/-- The characters in exactly one of two sets. -/
def symmDiff (s t : CharSet) : CharSet := diff (union s t) (inter s t)

/-- Whether every character of the set is below `U+0080`. -/
def isAscii (s : CharSet) : Bool := s.ranges.all fun r => r.2 < 0x80

/-! ### Written ranges -/

/-- The value of a hexadecimal digit. -/
def hexDigit? (c : Char) : Option Nat :=
  if c.isDigit then some (c.toNat - '0'.toNat)
  else if 'A' ≤ c ∧ c ≤ 'F' then some (c.toNat - 'A'.toNat + 10)
  else if 'a' ≤ c ∧ c ≤ 'f' then some (c.toNat - 'a'.toNat + 10)
  else none

/-- The range that ends with a number, if there is a number. -/
def rangeTo (start last : Option Nat) : List (Nat × Nat) :=
  (last.map fun n => (start.getD n, n)).toList

/-- Reads ranges written in hexadecimal with blanks between them, such as `41-5A 61-7A AA`. -/
def ofText (text : String) : CharSet := ⟨go none none text.toList⟩
where
  /-- The start of the range that is being read, if it is behind, and the number so far. -/
  go (start number : Option Nat) : List Char → List (Nat × Nat)
    | [] => rangeTo start number
    | c :: cs =>
      if c = '-' then go number none cs
      else
        match hexDigit? c with
        | some d => go start (some (16 * number.getD 0 + d)) cs
        | none => rangeTo start number ++ go none none cs

end CharSet

end RecordExpr.Unicode
