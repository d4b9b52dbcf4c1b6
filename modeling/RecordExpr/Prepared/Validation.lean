import RecordExpr.Prepared.Eval
import RecordExpr.Validation

/-!
# Validation of prepared expressions

The issues of a prepared expression are those of its nodes. Whether a pattern could be made in
advance is seen from what the node holds.

The main definition is `Prepared.validateFor`.
-/

namespace RecordExpr.Prepared

/-- The issues that a node has itself. -/
def nodeIssues (p : Prepared) (path : Path) : List Issue :=
  p.expr.slotIssues path ++ p.expr.formatIssues path ++ p.expr.madeIssues path p.made? ++
    p.expr.divisorIssues path

/-- The issues of all nodes below a path, those of the operands before those of the node. -/
def issuesBelow (path : Path) (p : Prepared) : List Issue :=
  (p.operands.attach.zip p.expr.steps).flatMap (fun (x, step) =>
    issuesBelow (path ++ [step]) x.1) ++ p.nodeIssues path
termination_by sizeOf p
decreasing_by exact sizeOf_lt_of_mem_operands x.2

/-- The issues of a prepared expression. -/
def validate (p : Prepared) : List Issue := p.issuesBelow []

/-- The issues of a prepared expression that may have to be of some kind. -/
def validateFor (p : Prepared) : Option Kind → List Issue
  | none => p.validate
  | some required => p.validate ++ p.expr.kindIssues required

end RecordExpr.Prepared
