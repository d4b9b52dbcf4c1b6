import RecordExpr.Text.Digits

/-!
# Templates

A template says what to put in the place of a match. A dollar sign in it refers to a group: by a
number or a name that follows directly and is as long as letters, digits and underscores go on, or
by anything in braces. Two dollar signs stand for one, and one that is followed by neither stands
for itself.
-/

namespace RecordExpr.Regex

/-- A piece of a template. -/
inductive Piece
  | text (c : Char)
  | numbered (group : Nat)
  | named (name : String)
  deriving DecidableEq

/-- Whether a character can be part of a reference without braces. -/
def isReferenceChar (c : Char) : Bool := c.isAlphanum || c == '_'

/-- The number that a reference consists of, if it is one. A plus sign may stand in front. -/
def referenceNumber? (cs : List Char) : Option Nat :=
  let digits := match cs with
    | '+' :: ds => ds
    | ds => ds
  if digits ≠ [] ∧ digits.all Char.isDigit ∧ Text.digitsValue digits < 0x10000000000000000 then
    some (Text.digitsValue digits)
  else none

/-- What a reference refers to. -/
def Piece.ofReference (cs : List Char) : Piece :=
  match referenceNumber? cs with
  | some n => .numbered n
  | none => .named (String.ofList cs)

/-- What follows a dollar sign: the piece that it is part of, and the rest. -/
def Piece.afterDollar (cs : List Char) : Piece × List Char :=
  match cs with
  | '$' :: rest => (.text '$', rest)
  | '\x7b' :: inside =>
    match inside.dropWhile (· != '\x7d') with
    | [] => (.text '$', cs)
    | _ :: rest => (.ofReference (inside.takeWhile (· != '\x7d')), rest)
  | cs =>
    let reference := cs.takeWhile isReferenceChar
    if reference = [] then (.text '$', cs)
    else (.ofReference reference, cs.dropWhile isReferenceChar)

private theorem length_dropWhile_le (p : Char → Bool) (cs : List Char) :
    (cs.dropWhile p).length ≤ cs.length := (List.dropWhile_suffix p).length_le

theorem Piece.length_afterDollar_le (cs : List Char) :
    (Piece.afterDollar cs).2.length ≤ cs.length := by
  unfold Piece.afterDollar
  split
  · simp
  · split
    · simp
    · rename_i inside _ _ rest h
      have := length_dropWhile_le (· != '\x7d') inside
      simp only [h, List.length_cons] at this ⊢
      omega
  · simp only
    split
    · simp
    · exact length_dropWhile_le _ _

/-- The pieces of a template. -/
def templatePieces (cs : List Char) : List Piece :=
  match cs with
  | [] => []
  | '$' :: rest => (Piece.afterDollar rest).1 :: templatePieces (Piece.afterDollar rest).2
  | c :: rest => .text c :: templatePieces rest
termination_by cs.length
decreasing_by
  · simp only [List.length_cons]
    exact Nat.lt_succ_of_le (Piece.length_afterDollar_le rest)
  · simp only [List.length_cons, Nat.lt_add_one]

end RecordExpr.Regex
