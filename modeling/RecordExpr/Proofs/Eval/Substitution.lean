import RecordExpr.Proofs.Eval.Alike
import RecordExpr.Proofs.Expr.Substitution

/-!
# Evaluation after a substitution

If what takes the place of some nodes has the results that they had, or results that differ in a NaN
at most, then so has the whole expression (`eval_substitute`). Two more things are asked for: the
kinds stay, as they decide on domains and on errors, and no pattern is made in advance that was not
before, as that would be made without the configured limits. The environments may differ in
attributes that the expression names below the replaced nodes only.
-/

namespace RecordExpr

variable {env env' : Environment} {mismatch : EvalError} {x y e new : Expr} {xs : List Expr}
  {anchored : Bool} {g : Expr → Expr} {p : Expr → Bool} {lookup : Lookup}

/-! ### Operands -/

/-- Operands with like results are read alike, here and in the next lemmas. -/
theorem valueOf_alike (h : Related Result.Alike (eval env x) (eval env' y)) :
    Related (Option.Rel Value.Alike) (valueOf env x) (valueOf env' y) :=
  h.bind fun _ _ h => .ok h.value?

theorem textOf_congr (h : Related Result.Alike (eval env x) (eval env' y)) :
    textOf env mismatch x = textOf env' mismatch y :=
  h.bind_congr fun _ _ h => h.text_congr mismatch

theorem placeOf_congr (h : Related Result.Alike (eval env x) (eval env' y)) :
    placeOf env mismatch x = placeOf env' mismatch y :=
  h.bind_congr fun _ _ h => h.place_congr mismatch

theorem conditionOf_congr (h : Related Result.Alike (eval env x) (eval env' y)) :
    conditionOf env mismatch x = conditionOf env' mismatch y :=
  h.bind_congr fun _ _ h => h.condition_congr mismatch

theorem branchOf_alike (k : Kind) (h : Related Result.Alike (eval env x) (eval env' y)) :
    Related Result.Alike (branchOf env mismatch k x) (branchOf env' mismatch k y) :=
  h.bind fun _ _ h => Result.expectKind_alike h mismatch k

theorem patternOf_congr (hfixed : y.fixedPattern? anchored = x.fixedPattern? anchored)
    (h : Related Result.Alike (eval env x) (eval env' y)) :
    patternOf env mismatch anchored x = patternOf env' mismatch anchored y := by
  rw [patternOf, patternOf, hfixed]
  cases x.fixedPattern? anchored with
  | some c => cases c <;> rfl
  | none =>
    -- only without a fixed pattern does the value count
    refine h.bind_congr fun r s h => ?_
    rw [h.text_congr]

theorem evalLogical_congr (op : Connective)
    (h : ∀ x ∈ xs, Related Result.Alike (eval env x) (eval env' (g x))) :
    evalLogical env mismatch op xs = evalLogical env' mismatch op (xs.map g) := by
  induction xs with
  | nil => rfl
  | cons x xs ih =>
    rw [List.forall_mem_cons] at h
    rw [List.map_cons, evalLogical_cons, evalLogical_cons, conditionOf_congr h.1, ih h.2]

theorem evalConcat_congr (hconfig : env'.config = env.config)
    (h : ∀ x ∈ xs, Related Result.Alike (eval env x) (eval env' (g x))) :
    evalConcat env xs = evalConcat env' (xs.map g) := by
  induction xs with
  | nil => rfl
  | cons x xs ih =>
    rw [List.forall_mem_cons] at h
    rw [List.map_cons, evalConcat_cons, evalConcat_cons, hconfig, ih h.2]
    refine (valueOf_alike h.1).bind_congr fun u? v? h => ?_
    cases h with
    | none => rfl
    | some h => simp only [h.render_congr]

/-! ### Expressions -/

/-- One step of `eval_substitute`. -/
theorem eval_withOperands (hattr : ∀ name, e = .attr name → lookup name = env.lookup name)
    (hkind : ∀ x ∈ e.operands, (g x).kind = x.kind)
    (hfixed : ∀ anchored source, e.pattern? = some (anchored, source) →
      (g source).fixedPattern? anchored = source.fixedPattern? anchored)
    (ih : ∀ x ∈ e.operands,
      Related Result.Alike (eval env x) (eval { env with lookup := lookup } (g x))) :
    Related Result.Alike (eval env e)
      (eval { env with lookup := lookup } (e.withOperands (e.operands.map g))) := by
  have hm := Expr.mismatch_withOperands hkind
  have hk := Expr.kind_withOperands hkind
  -- texts, places and conditions are the same on both sides, only values may differ in a NaN
  cases e with simp only [Expr.operands, Expr.withOperands, List.map_cons, List.map_nil,
    List.forall_mem_cons] at hm hk hkind ih ⊢
  | literal r => exact .ok (.refl r)
  | attr name =>
    rw [eval_attr, ← hattr name rfl]
    exact .ok (.refl _)
  | now => exact .ok (.refl _)
  | convert target x format =>
    rw [eval_convert, eval_convert, hm]
    refine (valueOf_alike ih.1).whenPresent (.refl _) fun v w h => ?_
    exact (Value.convert_alike h _ _ _).bind fun _ _ h => .ok (.present h)
  | unary op x =>
    rw [eval_unary, eval_unary, hm, hk]
    exact ih.1.bind fun r s h => op.apply_alike h _ _
  | compare op x y =>
    rw [eval_compare, eval_compare, hm, hkind.1, hkind.2.1]
    refine (valueOf_alike ih.1).whenPresent (.refl _) fun u u' hu => ?_
    refine (valueOf_alike ih.2.1).whenPresent (.refl _) fun v v' hv => ?_
    exact .of_eq .refl (op.onValues_congr hu hv _ _)
  | arithmetic op x y =>
    rw [eval_arithmetic, eval_arithmetic, hm, hk, hkind.1, hkind.2.1]
    refine (valueOf_alike ih.1).bind fun u? u'? hu => ?_
    refine (valueOf_alike ih.2.1).bind fun v? v'? hv => ?_
    refine (Related.ok hu).whenPresent (.refl _) fun u u' hu => ?_
    refine (Related.ok hv).whenPresent (.refl _) fun v v' hv => ?_
    exact (op.onValues_alike hu hv _ _).bind fun _ _ h => .ok (.present h)
  | logical op xs =>
    rw [eval_logical, eval_logical, hm, evalLogical_congr op ih]
    exact .of_eq .refl rfl
  | ifElse c x y =>
    rw [eval_ifElse, eval_ifElse, hm, hkind.2.1, conditionOf_congr ih.1]
    refine (Related.of_eq Eq.refl rfl).bind fun b _ h => ?_
    subst h
    refine branchOf_alike _ ?_
    cases b with
    | false => exact ih.2.2.1
    | true => exact ih.2.1
  | replaceNull x y =>
    rw [eval_replaceNull, eval_replaceNull, hm, hkind.1]
    refine ih.1.bind fun r s h => ?_
    rw [h.isAbsent_eq]
    split
    · exact branchOf_alike _ ih.2.1
    · exact .ok h
  | concat xs =>
    have hconfig : Environment.config { env with lookup := lookup } = env.config := rfl
    rw [eval_concat, eval_concat, evalConcat_congr hconfig ih]
    exact .of_eq .refl rfl
  | substringFrom x i =>
    rw [eval_substringFrom, eval_substringFrom, hm, textOf_congr ih.1, placeOf_congr ih.2.1]
    exact .of_eq .refl rfl
  | substring x i j =>
    rw [eval_substring, eval_substring, hm, textOf_congr ih.1, placeOf_congr ih.2.1,
      placeOf_congr ih.2.2.1]
    exact .of_eq .refl rfl
  | test op x search y =>
    cases search with
    | text =>
      rw [eval_test_text, eval_test_text, hm, textOf_congr ih.1, textOf_congr ih.2.1]
      exact .of_eq .refl rfl
    | pattern anchored =>
      rw [eval_test_pattern, eval_test_pattern, hm, textOf_congr ih.1,
        patternOf_congr (hfixed anchored y rfl) ih.2.1]
      exact .of_eq .refl rfl
  | replace x search y z =>
    cases search with
    | text =>
      rw [eval_replace_text, eval_replace_text, hm, textOf_congr ih.1, textOf_congr ih.2.1,
        textOf_congr ih.2.2.1]
      exact .of_eq .refl rfl
    | pattern anchored =>
      rw [eval_replace_pattern, eval_replace_pattern, hm, textOf_congr ih.1,
        patternOf_congr (hfixed anchored y rfl) ih.2.1, textOf_congr ih.2.2.1]
      exact .of_eq .refl rfl

/-- The name may be given a value in the environment, or that value may stand in the tree. -/
theorem eval_substitute {name : String} (h : e.NamedOnlyIn name p)
    (hlookup : ∀ other, other ≠ name → lookup other = env.lookup other)
    (hkind : ∀ n, p n = true → n.kind = new.kind)
    (hvalue : ∀ n, p n = true →
      Related Result.Alike (eval env n) (eval { env with lookup := lookup } new))
    (hfixed : ∀ n ∈ e.nodes, ∀ anchored source, n.pattern? = some (anchored, source) →
      (source.substitute p new).fixedPattern? anchored = source.fixedPattern? anchored) :
    Related Result.Alike (eval env e)
      (eval { env with lookup := lookup } (e.substitute p new)) := by
  induction e using Expr.operands_induction with
  | step e ih =>
    by_cases hpick : p e = true
    · rw [Expr.substitute_of_pick hpick]
      exact hvalue e hpick
    · rw [Expr.substitute_of_not_pick hpick]
      refine eval_withOperands ?_ (fun x _ => Expr.kind_substitute hkind x)
        (hfixed e (Expr.mem_nodes_self e)) fun x hx => ?_
      · rintro other rfl
        refine hlookup other ?_
        rintro rfl
        exact h.root rfl
      · -- the name stands below only where it is replaced
        refine ih x hx (h.of_mem_operands hpick hx) fun n hn => hfixed n ?_
        exact Expr.mem_nodes_of_mem_operands hx hn

end RecordExpr
