import RecordExpr.Proofs.Expr.Nodes
import RecordExpr.Proofs.Eval.Steps

/-!
# The kind of a result

A result has the kind that the expression declares (`kind_of_eval`), whether or not the operands
fit to their slots: where they do not, there is no result. Each operator is treated on its own
first, for values of any kind; the kind that arithmetic declares is that of the domain that it
works in. So the domain of operands that are present is that of their values
(`eval_arithmetic_of_present`, `eval_compare_of_present`).
-/

namespace RecordExpr

/-! ### Operators on values -/

/-- A conversion yields a value of its target. -/
theorem Value.kind_of_convert {mismatch : EvalError} {format : Option String} {k : Kind}
    {v w : Value} (h : v.convert mismatch format k = .ok w) : w.kind = k := by
  cases k <;> cases v <;>
    simp only [Value.convert, bind_eq_ok_iff, pure, Except.pure, Except.ok.injEq, reduceCtorEq] at h
  all_goals
    obtain ⟨_, _, rfl⟩ := h
    rfl

/-- An operator with one operand yields the kind that its operand asks for. -/
theorem Unary.kind_of_onValue {mismatch : EvalError} {op : Unary} {v w : Value}
    (h : op.onValue mismatch v = .ok w) : w.kind = op.resultKind v.kind := by
  cases op <;> cases v <;>
    simp only [Unary.onValue, bind_eq_ok_iff, pure, Except.pure, Except.ok.injEq, reduceCtorEq] at h
  all_goals
    obtain ⟨_, _, rfl⟩ := h
    rfl

theorem Unary.kind_onAbsent (op : Unary) (k : Kind) :
    (op.onAbsent (op.resultKind k)).kind = op.resultKind k := by
  cases op <;> rfl

/-- It does so for an absent operand too. -/
theorem Unary.kind_of_apply {mismatch : EvalError} {op : Unary} {r s : Result}
    (h : op.apply mismatch (op.resultKind r.kind) r = .ok s) : s.kind = op.resultKind r.kind := by
  cases r with
  | absent k =>
    cases h
    exact op.kind_onAbsent k
  | present v =>
    obtain ⟨w, hw, h⟩ := bind_eq_ok_iff.mp h
    cases h
    exact Unary.kind_of_onValue hw

/-- Comparisons yield Booleans, if anything. -/
theorem Comparison.kind_of_onValues {mismatch : EvalError} {op : Comparison}
    {domain : Option ComparisonDomain} {a b : Value} {r : Result}
    (h : op.onValues mismatch domain a b = .ok r) : r.kind = .boolean := by
  unfold Comparison.onValues at h
  split at h
  · cases h
    rfl
  · cases h

/-- Arithmetic yields the kind of its domain. -/
theorem Arithmetic.kind_of_onValues {mismatch : EvalError} {op : Arithmetic}
    {domain : Option ArithmeticDomain} {a b v : Value}
    (h : op.onValues mismatch domain a b = .ok v) :
    ∃ d, domain = some d ∧ v.kind = d.resultKind := by
  unfold Arithmetic.onValues at h
  split at h
  · obtain ⟨_, _, h⟩ := bind_eq_ok_iff.mp h
    cases h
    exact ⟨_, rfl, rfl⟩
  · obtain ⟨_, _, h⟩ := bind_eq_ok_iff.mp h
    cases h
    exact ⟨_, rfl, rfl⟩
  · cases h
    exact ⟨_, rfl, rfl⟩
  · split at h
    · cases h
      exact ⟨_, rfl, rfl⟩
    · cases h
  · cases h

theorem Result.kind_ofOption_string (s : Option String) :
    (Result.ofOption .string (s.map .string)).kind = .string := by
  cases s <;> rfl

theorem Result.kind_of_expectKind {mismatch : EvalError} {k : Kind} {r s : Result}
    (h : r.expectKind mismatch k = .ok s) : s.kind = k := by
  unfold Result.expectKind at h
  split at h
  · next hk =>
    cases h
    exact hk
  · cases h

/-! ### Expressions -/

/-- A branch is refused unless it is of the kind that is asked for. -/
theorem kind_of_branchOf {env : Environment} {mismatch : EvalError} {k : Kind} {x : Expr} :
    ResultsIn (·.kind = k) (branchOf env mismatch k x) :=
  .bind fun _ _ _ h => Result.kind_of_expectKind h

/-- One step of `kind_of_eval`: a node has the kind that it declares if its operands do. -/
theorem kind_of_eval_step {env : Environment} {e : Expr}
    (ih : ∀ x ∈ e.operands, ResultsIn (·.kind = x.kind) (eval env x)) :
    ResultsIn (·.kind = e.kind) (eval env e) := by
  cases e with
  | literal r => exact .ok rfl
  | attr name => exact .ok (Result.kind_ofOption_string _)
  | now => exact .ok rfl
  | convert target x format =>
    rw [eval_convert]
    refine .whenPresent rfl fun v _ => .bind fun w hw => ?_
    exact .ok (Value.kind_of_convert hw)
  | unary op x =>
    rw [eval_unary]
    refine .bind fun r hr s hs => ?_
    -- the declared kind is computed from the operand's, which is that of its result
    have hk : r.kind = x.kind := ih x (List.mem_singleton_self x) r hr
    rw [Expr.kind, ← hk] at hs ⊢
    exact Unary.kind_of_apply hs
  | compare op x y =>
    rw [eval_compare]
    refine .whenPresent rfl fun a _ => .whenPresent rfl fun b _ => ?_
    exact fun r hr => Comparison.kind_of_onValues hr
  | arithmetic op x y =>
    rw [eval_arithmetic]
    refine .bind fun a? _ => .bind fun b? _ => ?_
    refine .whenPresent rfl fun a _ => .whenPresent rfl fun b _ => .bind fun v hv => .ok ?_
    -- the domain that the values are treated in is the one that decides the declared kind
    obtain ⟨d, hd, hk⟩ := Arithmetic.kind_of_onValues hv
    rw [Result.kind, Expr.kind, hd, Option.map_some, Option.getD_some]
    exact hk
  | logical op xs =>
    rw [eval_logical]
    exact .bind fun b _ => .ok rfl
  | ifElse c x y =>
    rw [eval_ifElse]
    exact .bind fun b _ => kind_of_branchOf
  | replaceNull x y =>
    rw [eval_replaceNull]
    refine .bind fun r hr => ?_
    have hk : r.kind = x.kind := ih x (List.mem_cons_self ..) r hr
    split
    · exact kind_of_branchOf
    · exact .ok hk
  | concat xs =>
    rw [eval_concat]
    exact .whenPresent rfl fun s _ => .ok rfl
  | substringFrom x i =>
    rw [eval_substringFrom]
    refine .whenPresent rfl fun s _ => .whenPresent rfl fun n _ => ?_
    exact .ok rfl
  | substring x i j =>
    rw [eval_substring]
    refine .whenPresent rfl fun s _ => .whenPresent rfl fun n _ => .whenPresent rfl fun m _ => ?_
    exact .ok rfl
  | test op x search y =>
    cases search with
    | text =>
      rw [eval_test_text]
      refine .whenPresent rfl fun s _ => .whenPresent rfl fun part _ => ?_
      cases op.onTexts? s part with
      | none => exact .error _
      | some b => exact .ok rfl
    | pattern anchored =>
      rw [eval_test_pattern]
      refine .whenPresent rfl fun s _ => ?_
      split
      · exact .whenPresent rfl fun regex _ => .bind fun _ _ => .ok rfl
      · exact .error _
  | replace x search y z =>
    cases search with
    | text =>
      rw [eval_replace_text]
      refine .whenPresent rfl fun s _ => .whenPresent rfl fun new _ => ?_
      exact .whenPresent rfl fun old _ => .ok rfl
    | pattern anchored =>
      rw [eval_replace_pattern]
      refine .whenPresent rfl fun s _ => .whenPresent rfl fun new _ => ?_
      exact .whenPresent rfl fun regex _ => .bind fun _ _ => .ok rfl

/-- A tree that evaluates to a result evaluates to one of its own kind, ill typed or not. -/
theorem kind_of_eval {env : Environment} {e : Expr} {r : Result} (h : eval env e = .ok r) :
    r.kind = e.kind := by
  induction e using Expr.operands_induction generalizing r with
  | step e ih => exact kind_of_eval_step (fun x hx s hs => ih x hx hs) r h

theorem kind_of_valueOf {env : Environment} {x : Expr} {v : Value}
    (h : valueOf env x = .ok (some v)) : v.kind = x.kind :=
  kind_of_eval (valueOf_eq_some_iff.mp h)

/-- A result has the kind that the expression declares, and so has its value. -/
theorem kinds_of_eval {env : Environment} {e : Expr} {r : Result} (h : eval env e = .ok r) :
    r.kind = e.kind ∧ ∀ v, r.value? = some v → v.kind = e.kind := by
  have hk : r.kind = e.kind := kind_of_eval h
  refine ⟨hk, fun v hv => ?_⟩
  cases r with
  | absent k => cases hv
  | present w =>
    cases hv
    exact hk

/-- The branches are of two kinds, and the one that is taken is of the declared one. -/
theorem kinds_of_eval_mixed_branches :
    ∃ r, eval .constant (.ifElse (.literal (.present (.boolean true)))
        (.literal (.present (.string "one"))) (.literal (.absent .date))) = .ok r ∧
      r.kind = .string ∧ ∀ v, r.value? = some v → v.kind = .string := by
  have h : eval .constant (.ifElse (.literal (.present (.boolean true)))
      (.literal (.present (.string "one"))) (.literal (.absent .date))) =
        .ok (.present (.string "one")) := rfl
  exact ⟨_, h, kinds_of_eval h⟩

/-! ### Operands that are present -/

section Present

variable {env : Environment} {x y : Expr} {a b : Value}

theorem eval_convert_of_present (target : Kind) (format : Option String)
    (hx : eval env x = .ok (.present a)) :
    eval env (.convert target x format) =
      a.convert (Expr.convert target x format).mismatch (format.or env.config.dateFormat) target >>=
        fun v => .ok (.present v) := by
  rw [eval_convert, valueOf_eq_some_iff.mpr hx]
  rfl

theorem eval_unary_of_present (op : Unary) (hx : eval env x = .ok (.present a)) :
    eval env (.unary op x) =
      op.onValue (Expr.unary op x).mismatch a >>= fun v => .ok (.present v) := by
  rw [eval_unary, hx]
  rfl

/-- Arithmetic on operands that are present works in the domain of their values. -/
theorem eval_arithmetic_of_present (op : Arithmetic) (hx : eval env x = .ok (.present a))
    (hy : eval env y = .ok (.present b)) :
    eval env (.arithmetic op x y) =
      op.onValues (Expr.arithmetic op x y).mismatch (op.domain? a.kind b.kind) a b >>= fun v =>
        .ok (.present v) := by
  rw [eval_arithmetic, valueOf_eq_some_iff.mpr hx, valueOf_eq_some_iff.mpr hy, ← kind_of_eval hx,
    ← kind_of_eval hy]
  rfl

/-- So does a comparison. -/
theorem eval_compare_of_present (op : Comparison) (hx : eval env x = .ok (.present a))
    (hy : eval env y = .ok (.present b)) :
    eval env (.compare op x y) =
      op.onValues (Expr.compare op x y).mismatch (op.domain? a.kind b.kind) a b := by
  rw [eval_compare, valueOf_eq_some_iff.mpr hx, valueOf_eq_some_iff.mpr hy, ← kind_of_eval hx,
    ← kind_of_eval hy]
  rfl

end Present

end RecordExpr
