import RecordExpr.Unicode.CharSet

/-!
# Regular expressions

A regular expression matches stretches of a text: one character of a set, nothing at a place that
passes a test, one stretch after another, either of two, or a number of repetitions. Groups remember
what they matched and change nothing else, and greed decides only which of several matches is
preferred.

The main definitions are `Node`, and `seqAll`, `altAll` and `repeated`, which put nodes together.
-/

namespace RecordExpr.Regex

open RecordExpr.Unicode

/-- A test of a place in the text. The tests of words come with the set of word characters. -/
inductive Look
  | textStart
  | textEnd
  | lineStart
  | lineEnd
  /-- lines that end with a carriage return, a line feed or both -/
  | crlfLineStart
  | crlfLineEnd
  | wordBoundary (word : CharSet)
  | notWordBoundary (word : CharSet)
  | wordStart (word : CharSet)
  | wordEnd (word : CharSet)
  | wordStartHalf (word : CharSet)
  | wordEndHalf (word : CharSet)
  deriving DecidableEq

/-- Whether a place passes a test, given the characters before and after it. -/
def Look.holds : Look → Option Char → Option Char → Bool
  | .textStart, before, _ => before.isNone
  | .textEnd, _, after => after.isNone
  | .lineStart, before, _ => before.all (· == '\n')
  | .lineEnd, _, after => after.all (· == '\n')
  | .crlfLineStart, before, after =>
    before.all fun b => b == '\n' || (b == '\r' && after != some '\n')
  | .crlfLineEnd, before, after =>
    after.all fun a => a == '\r' || (a == '\n' && before != some '\r')
  | .wordBoundary w, before, after => before.any w.contains != after.any w.contains
  | .notWordBoundary w, before, after => before.any w.contains == after.any w.contains
  | .wordStart w, before, after => !before.any w.contains && after.any w.contains
  | .wordEnd w, before, after => before.any w.contains && !after.any w.contains
  | .wordStartHalf w, before, _ => !before.any w.contains
  | .wordEndHalf w, _, after => !after.any w.contains

inductive Node
  /-- matches nothing, everywhere -/
  | empty
  /-- one character -/
  | set (s : CharSet)
  | look (l : Look)
  | seq (a b : Node)
  | alt (a b : Node)
  /-- from `min` to `max` times, or without a limit -/
  | rep (min : Nat) (max : Option Nat) (greedy : Bool) (r : Node)
  | group (index : Nat) (r : Node)
  deriving DecidableEq

namespace Node

/-! ### Sequences and choices -/

/-- The nodes that a node is a sequence of. -/
def items : Node → List Node
  | .empty => []
  | .seq a b => a.items ++ b.items
  | r => [r]

/-- The nodes that a node is a choice of. -/
def branches : Node → List Node
  | .alt a b => a.branches ++ b.branches
  | r => [r]

/-- The items one after another. -/
def ofItems : List Node → Node
  | [] => .empty
  | [r] => r
  | r :: rs => .seq r (ofItems rs)

/-- The first branch that matches. -/
def ofBranches : List Node → Node
  | [] => .set .empty
  | [r] => r
  | r :: rs => .alt r (ofBranches rs)

/-- The nodes one after another. -/
def seqAll (rs : List Node) : Node := ofItems (rs.flatMap items)

/-- The set of a node that matches one character of a set. -/
def set? : Node → Option CharSet
  | .set s => some s
  | _ => none

/-- Any of the nodes, those in front being preferred. A choice among sets is one set. -/
def choice (rs : List Node) : Node :=
  let bs := rs.flatMap branches
  match bs.mapM set? with
  | some (s :: ss) => .set (ss.foldl CharSet.union s)
  | _ => ofBranches bs

/-- The items that two branches both begin with. -/
def sharedStart : List Node → List Node → List Node
  | a :: as, b :: bs => if a = b then a :: sharedStart as bs else []
  | _, _ => []

/-- Any of the nodes, those in front being preferred. What all branches begin with is matched before
a branch is chosen, if none of them is a single item. So a way to match this beginning is preferred
to a branch, even to the first. -/
def altAll (rs : List Node) : Node :=
  match (rs.flatMap branches).map items with
  | [] => ofBranches []
  | b :: bs =>
    if (b :: bs).all (1 < ·.length) then
      let start := bs.foldl sharedStart b
      seqAll (start ++ [choice ((b :: bs).map fun branch => ofItems (branch.drop start.length))])
    else choice rs

/-! ### Repetitions -/

/-- Whether every match has at least one character. -/
def consumes : Node → Bool
  | .empty | .look _ => false
  | .set _ => true
  | .seq a b => a.consumes || b.consumes
  | .alt a b => a.consumes && b.consumes
  | .rep min _ _ r => 0 < min && r.consumes
  | .group _ r => r.consumes

/-- Whether every match is empty, as the shape shows. -/
def neverConsumes : Node → Bool
  | .empty | .look _ => true
  | .set _ => false
  | .seq a b | .alt a b => a.neverConsumes && b.neverConsumes
  | .rep _ max _ r => max == some 0 || r.neverConsumes
  | .group _ r => r.neverConsumes

/-- The repetition of a node. To repeat what is always empty more than once adds nothing. -/
def repeated (min : Nat) (max : Option Nat) (greedy : Bool) (r : Node) : Node :=
  let min' := if r.neverConsumes then Nat.min min 1 else min
  let max' := if r.neverConsumes then some ((max.map (Nat.min · 1)).getD 1) else max
  if min' = 0 ∧ max' = some 0 then .empty
  else if min' = 1 ∧ max' = some 1 then r
  else .rep min' max' greedy r

end Node

/-- A pattern that was accepted: its node, and the numbers of the groups that have names. -/
structure Compiled where
  node : Node
  names : List (String × Nat)
  deriving DecidableEq

end RecordExpr.Regex
