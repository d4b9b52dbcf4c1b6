import RecordExpr.Validation

/-!
# Putting expressions to use

An expression is put to use for a purpose, and only if validation finds no error in it. What can
fail here and later, when the expression is evaluated for a record, is a `Failure`.
-/

namespace RecordExpr

/-- What an expression is used for. -/
inductive Purpose
  | rule (name : String)
  | attr (name : String)
  | var (name : String)
  | aggregate
  | property (name : String)
  deriving DecidableEq

/-- A name in quotes. -/
def quoted (name : String) : String := "'" ++ name ++ "'"

def Purpose.render : Purpose → String
  | rule name => "rule " ++ quoted name
  | attr name => "attribute " ++ quoted name
  | var name => "variable " ++ quoted name
  | aggregate => "aggregate"
  | property name => "property " ++ quoted name

inductive Failure
  /-- validation found these errors -/
  | invalid (purpose : Purpose) (errors : List Issue)
  | reservedRule (name : String)
  | duplicateRule (name : String)
  /-- an aggregate of a kind that is no number -/
  | notNumeric (k : Kind)
  | evaluation (purpose : Purpose) (cause : EvalError)
  /-- a value that could not be added to an aggregate -/
  | aggregation (value : String) (cause : EvalError)
  /-- a value for which the aggregate is absent -/
  | noNumber (value : String)
  /-- an expression could not be built -/
  | building (message : String)
  deriving DecidableEq

namespace Failure

def message : Failure → String
  | invalid purpose errors =>
    "Invalid expression for " ++ purpose.render ++ ": " ++
      "; ".intercalate (errors.map Issue.render)
  | reservedRule name => "Rule name " ++ quoted name ++ " is reserved"
  | duplicateRule name => "Rule " ++ quoted name ++ " already exists"
  | notNumeric k => "Aggregate expression must evaluate to a number, but evaluates to " ++ k.label
  | evaluation purpose _ => "Failed to evaluate " ++ purpose.render
  | aggregation value _ => "Failed to aggregate value " ++ quoted value
  | noNumber value =>
    "Aggregate expression produced no " ++ Kind.decimal.label ++ " for value " ++ quoted value
  | building message => message

/-- The evaluation error behind a failure. -/
def cause? : Failure → Option EvalError
  | evaluation _ cause | aggregation _ cause => some cause
  | _ => none

end Failure

/-- The outcome of an evaluation, with errors put down to some failure. -/
def orFailure {α : Type} (failure : EvalError → Failure) : Except EvalError α → Except Failure α
  | .ok a => .ok a
  | .error e => .error (failure e)

/-- Refuses an expression with errors among its issues. -/
def requireValid (purpose : Purpose) (issues : List Issue) : Except Failure Unit :=
  if hasErrors issues then .error (.invalid purpose (issues.filter Issue.isError)) else .ok ()

theorem requireValid_of_hasErrors {purpose : Purpose} {issues : List Issue}
    (h : hasErrors issues = true) :
    requireValid purpose issues = .error (.invalid purpose (issues.filter Issue.isError)) := by
  rw [requireValid, if_pos h]

theorem requireValid_eq_ok_iff {purpose : Purpose} {issues : List Issue} :
    requireValid purpose issues = .ok () ↔ hasErrors issues = false := by
  cases h : hasErrors issues <;> simp [requireValid, h]

end RecordExpr
