import RecordExpr.Regex.Node
import RecordExpr.Regex.Places

/-!
# Whether a regular expression matches

To match a regular expression against one text, it is first laid over the text: every set of
characters becomes the set of places in front of such characters, and every test the set of places
that pass it. Then, for a set of places where a match may end, `Overlay.before` computes all the
places where one may start. No choice is ever taken back, so the time is bounded by the sizes of the
expression and the text.

The main definitions are `Node.starts` and `Node.isMatch`.
-/

namespace RecordExpr.Regex

/-- A regular expression laid over a text. -/
inductive Overlay
  /-- passes one character at one of the places -/
  | step (places : Places)
  /-- stays at one of the places -/
  | stay (places : Places)
  | seq (a b : Overlay)
  | alt (a b : Overlay)
  /-- `least` times and then up to `more` times -/
  | rep (least more : Nat) (r : Overlay)
  deriving DecidableEq

/-- What stands around each place of a text. -/
def neighbours (text : List Char) : List (Option Char × Option Char) :=
  (none :: text.map some).zip (text.map some ++ [none])

namespace Overlay

/-- Applies a function `n` times, or until it changes nothing. -/
def iterate (f : Places → Places) : Nat → Places → Places
  | 0, s => s
  | n + 1, s => if f s = s then s else iterate f n (f s)

/-- Where a match may start if it may end in `ends`. -/
def before : Overlay → Places → Places
  | step places, ends => places.inter ends.pred
  | stay places, ends => places.inter ends
  | seq a b, ends => a.before (b.before ends)
  | alt a b, ends => (a.before ends).union (b.before ends)
  | rep least more r, ends =>
    iterate r.before least (iterate (fun s => s.union (r.before s)) more ends)

end Overlay

/-- The node laid over a text. An unlimited repetition can be useful no more often than the text has
places, since a pass that adds no place is the last. -/
def Node.over (text : List Char) : Node → Overlay
  | .empty => .stay (.below (text.length + 1))
  | .set s => .step (.ofAnswers (text.map s.contains))
  | .look l => .stay (.ofAnswers ((neighbours text).map fun n => l.holds n.1 n.2))
  | .seq a b => .seq (a.over text) (b.over text)
  | .alt a b => .alt (a.over text) (b.over text)
  | .rep min max _ r =>
    .rep min ((max.map (· - min)).getD (text.length + 1)) (r.over text)
  | .group _ r => r.over text

/-- The places of a text at which a match starts. -/
def Node.starts (text : List Char) (r : Node) : Places :=
  (r.over text).before (.below (text.length + 1))

/-- Whether some stretch of a text matches. -/
def Node.isMatch (text : List Char) (r : Node) : Bool := r.starts text != .empty

end RecordExpr.Regex
