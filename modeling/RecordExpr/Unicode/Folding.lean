import RecordExpr.Unicode.CharSet
import RecordExpr.Unicode.FoldingTable

/-!
# Matching without regard to case

A set of characters is closed under case when it holds, with each character, every character that
differs from it in case only. `CharSet.foldCase` is the least such set around a given one.
-/

namespace RecordExpr.Unicode

/-- Reads numbers in hexadecimal that are separated by blanks, in groups separated by commas. The
first arguments are the group that is being read and its last number, if that is not complete. -/
private def readGroups (group : List Nat) (number : Option Nat) : List Char → List (List Nat)
  | [] => [group ++ number.toList]
  | c :: cs =>
    if c = ',' then (group ++ number.toList) :: readGroups [] none cs
    else
      match CharSet.hexDigit? c with
      | some d => readGroups group (some (16 * number.getD 0 + d)) cs
      | none => readGroups (group ++ number.toList) none cs

/-- The classes of characters that differ in case only, of more than one member. -/
def foldingClasses : List (List Nat) := readGroups [] none foldingText.toList

namespace CharSet

/-- Adds every character that differs in case only from a member. -/
def foldCase (s : CharSet) : CharSet :=
  let added := (foldingClasses.filter fun cls => cls.any s.hasCode).flatMap fun cls =>
    cls.map fun n => (n, n)
  if added.isEmpty then s else ofRanges (s.ranges ++ added)

/-- Adds the letters of ASCII that differ in case only from a letter of ASCII in the set. -/
def foldAsciiCase (s : CharSet) : CharSet :=
  let lower := inter s (range 'a' 'z')
  let upper := inter s (range 'A' 'Z')
  ofRanges (s.ranges ++ lower.ranges.map (fun r => (r.1 - 32, r.2 - 32)) ++
    upper.ranges.map fun r => (r.1 + 32, r.2 + 32))

end CharSet

end RecordExpr.Unicode
