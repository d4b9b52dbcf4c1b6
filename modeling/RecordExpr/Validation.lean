import RecordExpr.Eval
import RecordExpr.Issue

/-!
# Validation

Validation collects the issues of every node of an expression, those of the operands before those of
the node itself. A node has an issue for every operand that its slot does not accept, and others
that depend on constants in it: a date format, a pattern or a divisor.

The main definitions are `validate` and `validateAs`, which requires a kind as well.
-/

namespace RecordExpr

namespace Expr

/-! ### Operands -/

/-- The issue of an operand that is not accepted. -/
def slotIssue (e : Expr) (path : Path) (index : Nat) (step : Step) (slot : Slot) (actual : Kind) :
    Issue where
  kind := if e.isPartnerSlot index then .incompatibleOperands else .operandTypeMismatch
  operator := e.operator
  path := path ++ [step]
  expected := slot.accepted
  actual := some actual
  message :=
    e.operator ++ " expects " ++ EvalError.labels " or " slot.accepted ++ " for " ++
      slot.role.name ++ ", got " ++ actual.label

/-- The issues of operands from the `index`-th on. -/
def slotIssuesFrom (e : Expr) (path : Path) (index : Nat) :
    List Step → List Slot → List Kind → List Issue
  | step :: steps, slot :: slots, actual :: actuals =>
    let rest := slotIssuesFrom e path (index + 1) steps slots actuals
    if slot.accepts actual then rest else e.slotIssue path index step slot actual :: rest
  | _, _, _ => []

def slotIssues (e : Expr) (path : Path) : List Issue :=
  e.slotIssuesFrom path 0 e.steps e.slots (e.operands.map (·.kind))

/-! ### Constants -/

/-- An issue that no kind is the matter of. -/
def plainIssue (e : Expr) (kind : IssueKind) (path : Path) (message : String) : Issue :=
  ⟨kind, e.operator, path, [], none, message⟩

/-- The issue of a date format that is not understood. -/
def formatIssues (e : Expr) (path : Path) : List Issue :=
  match e with
  | convert _ _ (some format) =>
    match dateFormatItems format with
    | .ok _ => []
    | .error err => [e.plainIssue .invalidDateFormat path err.message]
  | _ => []

/-- The issue of a pattern that was to be made in advance and could not. A date format that is to
blame is an issue of its own. -/
def madeIssues (e : Expr) (path : Path) : Option (Except EvalError Regex.Compiled) → List Issue
  | none | some (.ok _) | some (.error (.invalidDateFormat _ _)) => []
  | some (.error err) => [e.plainIssue .invalidPattern (path ++ [⟨.pattern, none⟩]) err.message]

/-- The issue of a pattern that belongs to the expression and cannot be made. -/
def patternIssues (e : Expr) (path : Path) : List Issue :=
  match e.pattern? with
  | none => []
  | some (anchored, source) => e.madeIssues path (source.fixedPattern? anchored)

/-- The issue of a constant zero by which whole numbers are divided. -/
def divisorIssues (e : Expr) (path : Path) : List Issue :=
  match e with
  | arithmetic op subject (literal r) =>
    if (op = .divide ∨ op = .mod) ∧ op.domain? subject.kind r.kind = some .wholeNumber ∧
        r.wholeNumber? = some .zero then
      [e.plainIssue .zeroDivisor (path ++ [⟨.operand, none⟩]) "divisor is always zero"]
    else []
  | _ => []

/-! ### Trees -/

/-- The issues that a node has itself. -/
def nodeIssues (e : Expr) (path : Path) : List Issue :=
  e.slotIssues path ++ e.formatIssues path ++ e.patternIssues path ++ e.divisorIssues path

/-- The issue of an expression of another kind than is required. -/
def kindIssues (e : Expr) (required : Kind) : List Issue :=
  if e.kind = required then []
  else
    [⟨.unexpectedResultType, e.operator, [], [required], some e.kind,
      "must evaluate to " ++ required.label ++ ", but evaluates to " ++ e.kind.label⟩]

end Expr

/-- The issues of an expression. -/
def validate (e : Expr) : List Issue := e.located.flatMap fun (path, node) => node.nodeIssues path

/-- The issues of an expression that has to be of some kind. -/
def validateAs (e : Expr) (required : Kind) : List Issue := validate e ++ e.kindIssues required

/-- The issues of an expression that may have to be of some kind. -/
def validateFor (e : Expr) : Option Kind → List Issue
  | none => validate e
  | some required => validateAs e required

/-! ### Several expressions -/

/-- The issues of all expressions that have been checked so far. -/
structure Checker where
  issues : List Issue

namespace Checker

def empty : Checker := ⟨[]⟩

/-- Adds an issue behind those that have been found before. -/
def push (c : Checker) (i : Issue) : Checker := ⟨c.issues ++ [i]⟩

/-- Goes through a tree below a path, to the operands first, and adds the issues of every node. -/
def visit (c : Checker) (path : Path) (e : Expr) : Checker := go e path c
where
  go : Expr → Path → Checker → Checker :=
    Expr.fold fun e below path c =>
      let c := (below.zip e.steps).foldl (fun c (walk, step) => walk (path ++ [step]) c) c
      (e.nodeIssues path).foldl push c

def check (c : Checker) (e : Expr) : Checker := c.visit [] e

def checkAs (c : Checker) (e : Expr) (required : Kind) : Checker :=
  (e.kindIssues required).foldl push (c.check e)

end Checker

end RecordExpr
