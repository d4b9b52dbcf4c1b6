import RecordExpr.Unicode.CaseTable
import RecordExpr.Unicode.Class

/-!
# Upper and lower case

The full case mappings: a character may become several. The small sigma is the one mapping that
depends on the neighbours; at the end of a word it takes its final form.
-/

namespace RecordExpr.Text

open RecordExpr.Unicode

/-- The image of a code point under runs of mappings. -/
private def mapCode (runs : List (Nat × Nat × Nat × Int)) (n : Nat) : Nat :=
  match runs.find? fun r => r.1 ≤ n && n ≤ r.2.1 && (n - r.1) % r.2.2.1 == 0 with
  | some r => (n + r.2.2.2).toNat
  | none => n

/-- The image of a character under expansions and runs. -/
private def mapChar (expansions : List (Nat × List Nat)) (runs : List (Nat × Nat × Nat × Int))
    (c : Char) : List Char :=
  match expansions.lookup c.toNat with
  | some codes => codes.map Char.ofNat
  | none => [Char.ofNat (mapCode runs c.toNat)]

/-- The upper case of a character. -/
def upperChar (c : Char) : List Char := mapChar upperExpansions upperRuns c

/-- The lower case of a character, whatever stands around it. -/
def lowerChar (c : Char) : List Char := mapChar lowerExpansions lowerRuns c

/-- Whether the first character that does not have to be ignored has a case. -/
def startsCased (cs : List Char) : Bool :=
  match cs.dropWhile caseIgnorableChars.contains with
  | [] => false
  | c :: _ => casedChars.contains c

/-- The capital sigma, whose lower case depends on its place in the word. -/
def capitalSigma : Char := 'Σ'

/-- Lower case of a text; `before` holds the characters in front of it, the nearest first. -/
def lowerFrom (before : List Char) : List Char → List Char
  | [] => []
  | c :: cs =>
    let image :=
      if c = capitalSigma then
        if startsCased before && !startsCased cs then ['ς'] else ['σ']
      else lowerChar c
    image ++ lowerFrom (c :: before) cs

def toUpper (s : String) : String := String.ofList (s.toList.flatMap upperChar)

def toLower (s : String) : String := String.ofList (lowerFrom [] s.toList)

end RecordExpr.Text
