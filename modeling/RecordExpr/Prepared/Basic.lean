import RecordExpr.Apply

/-!
# Prepared expressions

A prepared expression is an expression whose patterns have been made in advance, as far as this is
possible. A node that looks for a pattern holds what was made of it: a regular expression or the
error that stood in its way. It holds nothing where the pattern has to be made in every evaluation.

Nothing in the type says that what a node holds belongs to its pattern. Whoever builds a tree has to
see to that.

The main definitions are `Prepared` and `Prepared.expr`, which leaves out what the nodes hold.
-/

namespace RecordExpr

/-- What a string test or a replacement looks for, with what was made of a pattern in advance. -/
inductive Sought
  | text
  | pattern (anchored : Bool) (made : Option (Except EvalError Regex.Compiled))

/-- An expression with the patterns that were made in advance. -/
inductive Prepared
  | literal (r : Result)
  | attr (name : String)
  | now
  | convert (target : Kind) (operand : Prepared) (format : Option String)
  | unary (op : Unary) (operand : Prepared)
  | compare (op : Comparison) (subject comparison : Prepared)
  | arithmetic (op : Arithmetic) (subject operand : Prepared)
  | logical (op : Connective) (operands : List Prepared)
  | ifElse (condition consequent alternative : Prepared)
  | replaceNull (subject replacement : Prepared)
  | concat (operands : List Prepared)
  | substringFrom (subject start : Prepared)
  | substring (subject start stop : Prepared)
  | test (op : StringTest) (subject : Prepared) (sought : Sought) (argument : Prepared)
  | replace (subject : Prepared) (sought : Sought) (argument replacement : Prepared)

/-- What is looked for, without what was made of it. -/
def Sought.search : Sought → Search
  | text => .text
  | pattern anchored _ => .pattern anchored

namespace Prepared

/-! ### Expressions -/

mutual

/-- The expression that was prepared. -/
def expr : Prepared → Expr
  | literal r => .literal r
  | attr name => .attr name
  | now => .now
  | convert target operand format => .convert target operand.expr format
  | unary op operand => .unary op operand.expr
  | compare op subject comparison => .compare op subject.expr comparison.expr
  | arithmetic op subject operand => .arithmetic op subject.expr operand.expr
  | logical op operands => .logical op (exprs operands)
  | ifElse condition consequent alternative =>
    .ifElse condition.expr consequent.expr alternative.expr
  | replaceNull subject replacement => .replaceNull subject.expr replacement.expr
  | concat operands => .concat (exprs operands)
  | substringFrom subject start => .substringFrom subject.expr start.expr
  | substring subject start stop => .substring subject.expr start.expr stop.expr
  | test op subject sought argument => .test op subject.expr sought.search argument.expr
  | replace subject sought argument replacement =>
    .replace subject.expr sought.search argument.expr replacement.expr

@[inherit_doc expr]
def exprs : List Prepared → List Expr
  | [] => []
  | p :: ps => p.expr :: exprs ps

end

theorem exprs_eq_map (ps : List Prepared) : exprs ps = ps.map expr := by
  induction ps with
  | nil => simp [exprs]
  | cons p ps ih => simp [exprs, ih]

/-- Whether two trees are the same. What their patterns are made of is compared, and what was made
of them is not. -/
def same (p q : Prepared) : Bool := p.expr.same q.expr

/-! ### Operands -/

def operands : Prepared → List Prepared
  | literal _ | attr _ | now => []
  | convert _ operand _ | unary _ operand => [operand]
  | compare _ subject comparison => [subject, comparison]
  | arithmetic _ subject operand => [subject, operand]
  | logical _ operands | concat operands => operands
  | ifElse condition consequent alternative => [condition, consequent, alternative]
  | replaceNull subject replacement => [subject, replacement]
  | substringFrom subject start => [subject, start]
  | substring subject start stop => [subject, start, stop]
  | test _ subject _ argument => [subject, argument]
  | replace subject _ argument replacement => [subject, argument, replacement]

theorem operands_expr (p : Prepared) : p.expr.operands = p.operands.map expr := by
  cases p <;> simp [expr, operands, Expr.operands, exprs_eq_map]

theorem sizeOf_lt_of_mem_operands {x p : Prepared} (h : x ∈ p.operands) : sizeOf x < sizeOf p := by
  cases p with
  | literal _ | attr _ | now => cases h
  | logical _ xs | concat xs =>
    have := List.sizeOf_lt_of_mem (show x ∈ xs from h)
    simp
    omega
  | _ =>
    simp only [operands, List.mem_cons, List.not_mem_nil, or_false] at h
    rcases h with rfl | rfl | rfl <;> simp +arith

/-- What a node holds of its pattern. -/
def made? : Prepared → Option (Except EvalError Regex.Compiled)
  | test _ _ (.pattern _ made) _ | replace _ (.pattern _ made) _ _ => made
  | _ => none

end Prepared

end RecordExpr
