import RecordExpr.Proofs.Eval.Absence

/-!
# The law of the null policy

The null policy that a node declares decides what an absent operand makes of it. With the default
configuration, if all operands fit and have results:

* a node that propagates absence is absent just if some operand is;
* a comparison or a test is false if some operand is absent;
* a condition that is absent counts as false (`eval_of_absent_condition`);
* operators that look for absence, or take it for false, are never absent themselves
  (`present_of_nullPolicy`).

`FollowsNullPolicy` says this of a node, and `absence_follows_nullPolicy` proves it of all.
-/

namespace RecordExpr

variable {env : Environment} {mismatch : EvalError}

/-! ### Operators that are never absent -/

/-- Operators that look for absence or take it for false have a value, except a choice, which has
the result of a branch. -/
theorem present_of_nullPolicy {e : Expr}
    (hp : e.nullPolicy = .absentIsFalse ∨ e.nullPolicy = .inspect)
    (hne : ∀ c x y, e ≠ .ifElse c x y) : ResultsIn Result.IsPresent (eval env e) := by
  have hfalse : Result.IsPresent (.present (.boolean false)) := ⟨_, rfl⟩
  cases e with
  | ifElse c x y => exact absurd rfl (hne c x y)
  | unary op x =>
    rw [eval_unary]
    refine .bind fun r _ => ?_
    cases r with
    | absent k =>
      cases op with
      -- the operators with one operand that answer for an absent one
      | not | isNull | notNull | isEmpty => exact results_present _
      | _ => rcases hp with hp | hp <;> cases hp
    | present v => exact results_present_of_bind id
  | compare op x y =>
    rw [eval_compare]
    exact .whenPresent hfalse fun a _ => .whenPresent hfalse fun b _ => Comparison.results_present
  | logical op xs =>
    rw [eval_logical]
    exact results_present_of_bind _
  | test op x search y =>
    cases search with
    | text =>
      rw [eval_test_text]
      refine .whenPresent hfalse fun s _ => .whenPresent hfalse fun part _ => ?_
      exact StringTest.results_present
    | pattern anchored =>
      rw [eval_test_pattern]
      refine .whenPresent hfalse fun s _ => ?_
      split
      · exact .whenPresent hfalse fun regex _ => results_present_of_bind _
      · exact .error _
  | _ => rcases hp with hp | hp <;> cases hp

/-! ### Conditions -/

/-- The places where a node reads a condition. -/
inductive ConditionPlace : (Expr → Expr) → Prop
  | negated : ConditionPlace fun c => .unary .not c
  | connected (op : Connective) (before after : List Expr) :
    ConditionPlace fun c => .logical op (before ++ c :: after)
  | chosenBy (x y : Expr) : ConditionPlace fun c => .ifElse c x y

/-- The constant that an absent condition counts as. -/
def falseExpr : Expr := .literal (.present (.boolean false))

theorem conditionOf_of_absent {c : Expr} (h : eval env c = .ok (.absent .boolean)) :
    conditionOf env mismatch c = conditionOf env mismatch falseExpr := by
  rw [conditionOf, h]
  rfl

/-- An absent operand of a connective may be replaced by the literal false. -/
theorem evalLogical_of_absent {op : Connective} {c : Expr} {before after : List Expr}
    (h : eval env c = .ok (.absent .boolean)) :
    evalLogical env mismatch op (before ++ c :: after) =
      evalLogical env mismatch op (before ++ falseExpr :: after) := by
  induction before with
  | nil =>
    rw [List.nil_append, List.nil_append, evalLogical_cons, evalLogical_cons,
      conditionOf_of_absent h]
  | cons x before ih =>
    rw [List.cons_append, List.cons_append, evalLogical_cons, evalLogical_cons, ih]

/-- An absent condition has the effect of the constant false. -/
theorem eval_of_absent_condition {place : Expr → Expr} (hp : ConditionPlace place) {c : Expr}
    (h : eval env c = .ok (.absent .boolean)) :
    eval env (place c) = eval env (place falseExpr) := by
  -- the kinds agree, and so do the errors of the node
  have hk : c.kind = falseExpr.kind := (kind_of_eval h).symm
  cases hp with
  | negated =>
    rw [eval_unary, eval_unary, h]
    rfl
  | connected op before after =>
    have hm : (Expr.logical op (before ++ c :: after)).mismatch =
        (Expr.logical op (before ++ falseExpr :: after)).mismatch := by
      simp [Expr.mismatch, Expr.operator, Expr.slots, Expr.operands, hk]
    rw [eval_logical, eval_logical, hm, evalLogical_of_absent h]
  | chosenBy x y =>
    have hm : (Expr.ifElse c x y).mismatch = (Expr.ifElse falseExpr x y).mismatch := by
      simp [Expr.mismatch, Expr.operator, Expr.slots, Expr.operands, hk]
    rw [eval_ifElse, eval_ifElse, hm, conditionOf_of_absent h]

/-! ### The law -/

/-- What the null policy says of the outcome of a node. -/
structure FollowsNullPolicy (env : Environment) (e : Expr) : Prop where
  /-- a node that propagates absence is absent if some operand is -/
  propagated : e.nullPolicy = .propagate → HasAbsentOperand env e →
    eval env e = .ok (.absent e.kind)
  /-- and it is absent for no other reason -/
  absent : e.nullPolicy = .propagate → e.operands ≠ [] →
    ∀ k, eval env e = .ok (.absent k) → HasAbsentOperand env e
  /-- absence makes comparisons and tests false -/
  isFalse : (∃ op x y, e = .compare op x y) ∨ (∃ op x search y, e = .test op x search y) →
    HasAbsentOperand env e → eval env e = .ok (.present (.boolean false))
  /-- an absent condition counts as false -/
  condition : ∀ place c, ConditionPlace place → e = place c →
    eval env c = .ok (.absent .boolean) → eval env e = eval env (place falseExpr)
  /-- what looks for absence or takes it for false is not absent itself -/
  present : e.nullPolicy = .absentIsFalse ∨ e.nullPolicy = .inspect →
    (∀ c x y, e ≠ .ifElse c x y) → ∀ k, eval env e ≠ .ok (.absent k)

/-- Under the default configuration, a node that fits its operands, and whose operands have results,
treats absence as its policy says. -/
theorem absence_follows_nullPolicy {e : Expr} (hc : env.config = .default) (hf : e.Fits)
    (hs : e.SearchFits) (hr : ∀ x ∈ e.operands, HasResult env x) : FollowsNullPolicy env e := by
  have not_absent {k : Kind} (h : ResultsIn Result.IsPresent (eval env e)) :
      eval env e ≠ .ok (.absent k) := by
    intro ha
    obtain ⟨v, hv⟩ := h _ ha
    cases hv
  constructor
  · intro hp ha
    have ho : e.operands ≠ [] := by
      -- the absent operand is one of them
      obtain ⟨x, hx, _⟩ := ha
      exact List.ne_nil_of_mem hx
    exact (yieldsIf_of_propagate hc hf hp ho hr).yields ha
  · intro hp ho k hk
    by_contra ha
    exact not_absent ((yieldsIf_of_propagate hc hf hp ho hr).present ha) hk
  · -- comparisons and tests are false, here by their own lemmas
    rintro (⟨op, x, y, rfl⟩ | ⟨op, x, search, y, rfl⟩) ha
    · exact (yieldsIf_of_compare hr).yields ha
    · exact (yieldsIf_of_test hc hf hs hr).yields ha
  · rintro place c hp rfl h
    exact eval_of_absent_condition hp h
  · intro hp hne k
    exact not_absent (present_of_nullPolicy hp hne)

/-- A replacement for every match of a pattern that is missing. -/
theorem absence_follows_nullPolicy_missing_pattern :
    let e := Expr.replace (.literal (.present (.string "aaa"))) (.pattern false) (.attr "p")
      (.literal (.present (.string "b")))
    FollowsNullPolicy .constant e ∧ eval .constant e = .ok (.absent .string) := by
  intro e
  have hf : e.Fits := by simp [e, Expr.kind, Result.kind, Value.kind]
  have hr : ∀ x ∈ e.operands, HasResult .constant x := by
    simp only [e, Expr.operands, List.forall_mem_cons]
    exact ⟨⟨_, rfl⟩, ⟨_, rfl⟩, ⟨_, rfl⟩, by simp⟩
  have h : FollowsNullPolicy .constant e := absence_follows_nullPolicy rfl hf trivial hr
  refine ⟨h, h.propagated rfl ⟨.attr "p", ?_, .string, rfl⟩⟩
  simp [e, Expr.operands]

end RecordExpr
