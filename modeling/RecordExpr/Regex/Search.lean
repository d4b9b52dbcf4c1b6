import RecordExpr.Regex.Overlay
import RecordExpr.Regex.Program
import Std.Data.HashSet.Basic

/-!
# Finding matches

A match is found by running the program of a regular expression and taking its choices in order of
preference. A thread that comes to an instruction and a place where another has been before goes no
further: what there is to find from there has been sought, or is being sought on a better way. So a
loop is not gone through again without passing a character.

The main definition is `Node.findAll`.
-/

namespace RecordExpr.Regex

/-- A match: where it starts and ends, and the starts and ends of the groups in it, those of later
passes first. -/
structure Match where
  start : Nat
  stop : Nat
  marks : List ((Nat × Bool) × Nat)
  deriving DecidableEq

/-- The stretch of text that a group matched last; group zero is the whole match. -/
def Match.group? (m : Match) (index : Nat) : Option (Nat × Nat) :=
  if index = 0 then some (m.start, m.stop)
  else do
    let start ← m.marks.lookup (index, true)
    let stop ← m.marks.lookup (index, false)
    return (start, stop)

/-- A way through the program, as far as it has gone. -/
structure Thread where
  instruction : Nat
  place : Nat
  marks : List ((Nat × Bool) × Nat)

namespace Thread

/-- Where a thread can go on in one step, the preferred way first; `none` if it has arrived. -/
def next (text : Array Char) (p : Program) (t : Thread) : Option (List Thread) :=
  match p.instructions[t.instruction]? with
  | none | some .accept => none
  | some (.step s next) =>
    match text[t.place]? with
    | some c => some (if s.contains c then [⟨next, t.place + 1, t.marks⟩] else [])
    | none => some []
  | some (.check l next) =>
    let before := if t.place = 0 then none else text[t.place - 1]?
    some (if l.holds before text[t.place]? then [⟨next, t.place, t.marks⟩] else [])
  | some (.save group opens next) =>
    some [⟨next, t.place, ((group, opens), t.place) :: t.marks⟩]
  | some (.choose first second) =>
    some [⟨first, t.place, t.marks⟩, ⟨second, t.place, t.marks⟩]

end Thread

/-- Runs threads, the first as far as it gets before the second. `seen` holds the pairs of
instruction and place that threads have been at. -/
def runThreads (text : Array Char) (p : Program) :
    Nat → Std.HashSet (Nat × Nat) → List Thread → Option Thread
  | 0, _, _ => none
  | _, _, [] => none
  | fuel + 1, seen, t :: ts =>
    if seen.contains (t.instruction, t.place) then runThreads text p fuel seen ts
    else
      match t.next text p with
      | none => some t
      | some more => runThreads text p fuel (seen.insert (t.instruction, t.place)) (more ++ ts)

/-- The preferred match that starts at a place. Each pair of instruction and place starts at most
two threads, which bounds the steps. -/
def matchAt? (text : Array Char) (p : Program) (start : Nat) : Option Match :=
  let fuel := 2 * (p.instructions.size * (text.size + 1)) + 2
  (runThreads text p fuel ∅ [⟨p.start, start, []⟩]).map fun t => ⟨start, t.place, t.marks⟩

/-- Everything that finding the matches of one regular expression in one text needs. -/
structure Finder where
  text : Array Char
  program : Program
  starts : Places

def Finder.new (text : List Char) (r : Node) : Finder := ⟨text.toArray, r.program, r.starts text⟩

/-- The preferred one of the leftmost matches from a place on. -/
def Finder.find? (f : Finder) (start : Nat) : Option Match := do
  matchAt? f.text f.program (← f.starts.firstBetween? start (f.text.size + 1))

/-- Matches from `start` on that do not overlap, from left to right. An empty match where the last
match ended does not count; the search goes on one character further. -/
def Finder.findFrom (f : Finder) : Nat → Option Nat → Nat → List Match
  | 0, _, _ => []
  | fuel + 1, lastStop, start =>
    match f.find? start with
    | none => []
    | some m =>
      if m.start = m.stop ∧ lastStop = some m.stop then findFrom f fuel lastStop (start + 1)
      else m :: findFrom f fuel (some m.stop) m.stop

/-- The matches in a text that do not overlap, from left to right. -/
def Node.findAll (text : List Char) (r : Node) : List Match :=
  (Finder.new text r).findFrom (2 * text.length + 3) none 0

end RecordExpr.Regex
