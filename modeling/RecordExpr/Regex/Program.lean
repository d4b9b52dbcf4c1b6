import RecordExpr.Regex.Node

/-!
# Programs

A regular expression becomes a program: a list of numbered instructions, each of which names the
instruction to go on with. Where there is a choice, the program says which way is to be tried first,
and so it fixes which of several matches is preferred.

Instructions are laid down from the end of the expression to its beginning, so that what follows is
there before what leads to it. Only a loop leads back.
-/

namespace RecordExpr.Regex

open RecordExpr.Unicode

inductive Instruction
  | accept
  /-- passes one character of the set -/
  | step (s : CharSet) (next : Nat)
  | check (l : Look) (next : Nat)
  /-- remembers the place as the start or the end of a group -/
  | save (group : Nat) (opens : Bool) (next : Nat)
  | choose (first second : Nat)
  deriving DecidableEq

/-- Instructions, and the number of the one to start with. -/
structure Program where
  start : Nat
  instructions : Array Instruction
  deriving DecidableEq

namespace Program

/-- The program that accepts at once. -/
def accepting : Program := ⟨0, #[.accept]⟩

/-- The program that starts with one more instruction. -/
def push (p : Program) (i : Instruction) : Program := ⟨p.instructions.size, p.instructions.push i⟩

/-- A choice between going through some instructions and leaving them out. -/
def pushChoice (p : Program) (greedy : Bool) (within out : Nat) : Program :=
  p.push (if greedy then .choose within out else .choose out within)

/-- The program with `count` copies of a body in front. -/
def copies (body : Program → Program) : Nat → Program → Program
  | 0, p => p
  | count + 1, p => copies body count (body p)

/-- The program with up to `count` copies of a body in front, each inside the one before it. -/
def optionals (body : Program → Program) (greedy : Bool) (out : Nat) : Nat → Program → Program
  | 0, p => p
  | count + 1, p =>
    let inner := body (optionals body greedy out count p)
    inner.pushChoice greedy inner.start out

/-- The program with a loop in front that is entered through its choice. -/
def loop (body : Program → Program) (greedy : Bool) (p : Program) : Program × Program :=
  let choice := p.instructions.size
  let inner := body (p.push .accept)
  let turn : Instruction :=
    if greedy then .choose inner.start p.start else .choose p.start inner.start
  let all := inner.instructions.setIfInBounds choice turn
  (⟨choice, all⟩, ⟨inner.start, all⟩)

/-- The program with a body any number of times in front. A body that may be empty is passed through
once before the choice to repeat it. -/
def star (body : Program → Program) (greedy consumes : Bool) (p : Program) : Program :=
  let (atChoice, atBody) := loop body greedy p
  if consumes then atChoice else atBody.pushChoice greedy atBody.start p.start

/-- The program with a body one or more times in front. -/
def plus (body : Program → Program) (greedy : Bool) (p : Program) : Program :=
  (loop body greedy p).2

end Program

/-- The program that goes through a node and then goes on with `p`. -/
def Node.emit : Node → Program → Program
  | .empty, p => p
  | .set s, p => p.push (.step s p.start)
  | .look l, p => p.push (.check l p.start)
  | .seq a b, p => a.emit (b.emit p)
  | .alt a b, p =>
    let second := b.emit p
    let first := a.emit ⟨p.start, second.instructions⟩
    first.push (.choose first.start second.start)
  | .rep min none greedy r, p =>
    if min = 0 then Program.star r.emit greedy r.consumes p
    else Program.copies r.emit (min - 1) (Program.plus r.emit greedy p)
  | .rep min (some max) greedy r, p =>
    Program.copies r.emit min (Program.optionals r.emit greedy p.start (max - min) p)
  | .group index r, p =>
    let inner := r.emit (p.push (.save index false p.start))
    inner.push (.save index true inner.start)

/-- The program of a regular expression. -/
def Node.program (r : Node) : Program := r.emit .accepting

end RecordExpr.Regex
