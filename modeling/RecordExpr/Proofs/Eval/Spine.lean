import RecordExpr.Proofs.Eval.Steps

/-!
# Errors of first operands

Every operator evaluates its first operand before it looks at anything else: before another operand,
before a default for what is absent, and before it asks whether the operands fit. So an error of the
first operand is the error of the node (`eval_eq_error_of_subject?`, one case for each operator).

The first operand of the first operand, and so on, is evaluated before all that is above it. An
error that is met on this way down a tree (`Expr.OnSpine`) is the error of the whole tree
(`eval_eq_error_of_onSpine`).
-/

namespace RecordExpr

variable {env : Environment} {mismatch err : EvalError} {x : Expr}

/-- The nodes that are reached from an expression by going to the first operand again and again. -/
inductive Expr.OnSpine (e : Expr) : Expr → Prop
  | root : OnSpine e e
  | subject {n x : Expr} (hn : OnSpine e n) (hx : n.subject? = some x) : OnSpine e x

/-! ### Reading an operand that fails -/

theorem valueOf_of_error (h : eval env x = .error err) : valueOf env x = .error err := by
  rw [valueOf, h]
  rfl

theorem textOf_of_error (h : eval env x = .error err) : textOf env mismatch x = .error err := by
  rw [textOf, h]
  rfl

theorem conditionOf_of_error (h : eval env x = .error err) :
    conditionOf env mismatch x = .error err := by
  rw [conditionOf, h]
  rfl

/-! ### One node -/

/-- A node whose first operand fails, fails with the same error. -/
theorem eval_eq_error_of_subject? {e : Expr} (hx : e.subject? = some x)
    (h : eval env x = .error err) : eval env e = .error err := by
  cases e with
  | literal _ | attr _ | now => cases hx
  | convert _ _ _ =>
    cases hx
    rw [eval_convert, valueOf_of_error h, whenPresent_error]
  | unary _ _ =>
    cases hx
    rw [eval_unary, h]
    rfl
  | compare _ _ _ =>
    cases hx
    rw [eval_compare, valueOf_of_error h, whenPresent_error]
  | arithmetic _ _ _ =>
    cases hx
    rw [eval_arithmetic, valueOf_of_error h]
    rfl
  | logical _ xs =>
    obtain ⟨rest, rfl⟩ := List.head?_eq_some_iff.mp hx
    rw [eval_logical, evalLogical_cons, conditionOf_of_error h]
    rfl
  | ifElse _ _ _ =>
    cases hx
    rw [eval_ifElse, conditionOf_of_error h]
    rfl
  | replaceNull _ _ =>
    cases hx
    rw [eval_replaceNull, h]
    rfl
  | concat xs =>
    obtain ⟨rest, rfl⟩ := List.head?_eq_some_iff.mp hx
    rw [eval_concat, evalConcat_cons, valueOf_of_error h]
    rfl
  | substringFrom _ _ =>
    cases hx
    rw [eval_substringFrom, textOf_of_error h, whenPresent_error]
  | substring _ _ _ =>
    cases hx
    rw [eval_substring, textOf_of_error h, whenPresent_error]
  | test _ _ search _ =>
    cases hx
    cases search with
    | text => rw [eval_test_text, textOf_of_error h, whenPresent_error]
    -- whether the test takes a pattern is asked after the subject
    | pattern _ => rw [eval_test_pattern, textOf_of_error h, whenPresent_error]
  | replace _ search _ _ =>
    cases hx
    cases search with
    | text => rw [eval_replace_text, textOf_of_error h, whenPresent_error]
    | pattern _ => rw [eval_replace_pattern, textOf_of_error h, whenPresent_error]

/-! ### A whole tree -/

/-- An expression fails with the error of any node that is reached by first operands only, whatever
the operators above that node do with what is absent or does not fit. -/
theorem eval_eq_error_of_onSpine {e n : Expr} (h : e.OnSpine n) (hn : eval env n = .error err) :
    eval env e = .error err := by
  induction h with
  | root => exact hn
  | subject _ hx ih => exact ih (eval_eq_error_of_subject? hx hn)

/-- A text that is no truth value fails the disjunction, the condition, the default and the test for
absence above it. -/
theorem eval_eq_error_of_onSpine_below_default :
    let env : Environment := ⟨fun _ => some "?", .epoch, .default⟩
    let truth := Expr.convert .boolean (.attr "x") none
    let e := Expr.unary .isNull
      (.replaceNull
        (.ifElse (.logical .or [truth, .literal (.present (.boolean true))]) (.attr "y")
          (.attr "z"))
        (.literal (.present (.string "none"))))
    e.OnSpine truth ∧ eval env truth = .error (.coercionFailed "?" .boolean) ∧
      eval env e = .error (.coercionFailed "?" .boolean) := by
  intro env truth e
  have hspine : e.OnSpine truth :=
    .subject (.subject (.subject (.subject .root rfl) rfl) rfl) rfl
  have htruth : eval env truth = .error (.coercionFailed "?" .boolean) := rfl
  exact ⟨hspine, htruth, eval_eq_error_of_onSpine hspine htruth⟩

end RecordExpr
