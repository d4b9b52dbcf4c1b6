import RecordExpr.Expr.Signature

/-!
# Issues

An issue is a problem that can be seen in an expression before it is evaluated. Errors forbid the
use of the expression; warnings do not.
-/

namespace RecordExpr

inductive Severity
  | error
  | warning
  deriving DecidableEq

namespace Severity

def name : Severity → String
  | error => "Error"
  | warning => "Warning"

def label : Severity → String
  | error => "error"
  | warning => "warning"

end Severity

inductive IssueKind
  /-- an operand of a kind that the operator does not take -/
  | operandTypeMismatch
  /-- an operand that does not fit to another one -/
  | incompatibleOperands
  /-- a pattern that belongs to the expression and cannot be made -/
  | invalidPattern
  | invalidDateFormat
  /-- an expression of another kind than is required -/
  | unexpectedResultType
  /-- whole numbers divided by a constant zero -/
  | zeroDivisor
  deriving DecidableEq

namespace IssueKind

def name : IssueKind → String
  | operandTypeMismatch => "OperandTypeMismatch"
  | incompatibleOperands => "IncompatibleOperands"
  | invalidPattern => "InvalidPattern"
  | invalidDateFormat => "InvalidDateFormat"
  | unexpectedResultType => "UnexpectedResultType"
  | zeroDivisor => "ZeroDivisor"

def code : IssueKind → String
  | operandTypeMismatch => "E001"
  | incompatibleOperands => "E002"
  | invalidPattern => "E003"
  | invalidDateFormat => "E004"
  | unexpectedResultType => "E005"
  | zeroDivisor => "W001"

/-- A constant zero is only a warning, since what is divided by it may be absent. -/
def severity : IssueKind → Severity
  | zeroDivisor => .warning
  | _ => .error

end IssueKind

structure Issue where
  kind : IssueKind
  /-- the operator of the node that the issue belongs to -/
  operator : String
  path : Path
  /-- the kinds that would do, where kinds are the matter -/
  expected : List Kind
  actual : Option Kind
  message : String
  deriving DecidableEq

namespace Issue

def severity (i : Issue) : Severity := i.kind.severity

def isError (i : Issue) : Bool := i.severity == .error

/-- The issue in one line. -/
def render (i : Issue) : String :=
  i.severity.label ++ ": [" ++ i.kind.code ++ "] " ++ i.operator ++ " at " ++ i.path.render ++
    ": " ++ i.message

end Issue

/-- Whether some issue is an error. -/
def hasErrors (is : List Issue) : Bool := is.any Issue.isError

end RecordExpr
