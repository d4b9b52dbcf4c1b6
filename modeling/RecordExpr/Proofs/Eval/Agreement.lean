import RecordExpr.Proofs.Eval.Kind

/-!
# What an evaluation depends on

Two environments agree at a node if they have the same answer to whatever the node itself asks of
them: an attribute, the present instant, the configured date format, or whether a text may be given
to a pattern. Where they agree at all nodes of an expression, its evaluations have the same outcome
(`eval_same`). The last answer may differ in an error of `E` on one side; then the outcomes are the
same unless the first is an error of `E`.

All that an expression asks for can be read off it: the attributes that it names, whether it asks
for the instant, and whether it uses the date format. So environments that agree on these give the
same outcome (`SameInputs.eval_same`, `SameInputs.eval_eq`).

That a node without dates does not ask for the date format rests on the kinds of results
(`kind_of_eval`): the node knows the kinds that its operands declare, and the format is read by the
values.
-/

namespace RecordExpr

variable {E : EvalError → Prop} {env₁ env₂ : Environment} {mismatch : EvalError}

/-! ### Values and date formats -/

/-- The date format bears on dates only. -/
theorem Value.render_congr {v : Value} {f g : Option String} (h : v.kind = .date → f = g) :
    v.render f = v.render g := by
  cases v with
  | date i => rw [h rfl]
  | _ => rfl

theorem Value.convert_string {v : Value} {f : Option String} :
    v.convert mismatch f .string = v.render f >>= fun s => .ok (.string s) := by
  cases v <;> rfl

/-- A conversion asks for a date format between dates and strings. -/
theorem Value.convert_congr {v : Value} {k : Kind} {f g : Option String}
    (hs : k = .string → v.kind = .date → f = g) (hd : k = .date → v.kind = .string → f = g) :
    v.convert mismatch f k = v.convert mismatch g k := by
  cases k with
  | string =>
    rw [Value.convert_string, Value.convert_string, Value.render_congr (hs rfl)]
  | date =>
    cases v with
    | string s => rw [hd rfl rfl]
    | _ => rfl
  | _ => cases v <;> rfl

/-! ### Operands -/

/-- Operands whose runs agree are read alike, here and in the next lemmas. -/
theorem valueOf_same {x : Expr} (h : SameUnless E (eval env₁ x) (eval env₂ x)) :
    SameUnless E (valueOf env₁ x) (valueOf env₂ x) := h.bind fun _ _ => .rfl

theorem textOf_same {x : Expr} (h : SameUnless E (eval env₁ x) (eval env₂ x)) :
    SameUnless E (textOf env₁ mismatch x) (textOf env₂ mismatch x) := h.bind fun _ _ => .rfl

theorem placeOf_same {x : Expr} (h : SameUnless E (eval env₁ x) (eval env₂ x)) :
    SameUnless E (placeOf env₁ mismatch x) (placeOf env₂ mismatch x) := h.bind fun _ _ => .rfl

theorem conditionOf_same {x : Expr} (h : SameUnless E (eval env₁ x) (eval env₂ x)) :
    SameUnless E (conditionOf env₁ mismatch x) (conditionOf env₂ mismatch x) :=
  h.bind fun _ _ => .rfl

theorem branchOf_same {k : Kind} {x : Expr} (h : SameUnless E (eval env₁ x) (eval env₂ x)) :
    SameUnless E (branchOf env₁ mismatch k x) (branchOf env₂ mismatch k x) := h.bind fun _ _ => .rfl

theorem resolvePattern_same {anchored : Bool} {fixed : Option (Except EvalError Regex.Compiled)}
    {x y : Except EvalError Result} (h : SameUnless E x y) :
    SameUnless E (resolvePattern mismatch anchored fixed x)
      (resolvePattern mismatch anchored fixed y) := by
  cases fixed with
  | none => exact h.bind fun _ _ => .rfl
  | some c => cases c <;> exact .rfl

/-- A pattern with a stored outcome has it in both environments. -/
theorem patternOf_same {anchored : Bool} {x : Expr}
    (h : SameUnless E (eval env₁ x) (eval env₂ x)) :
    SameUnless E (patternOf env₁ mismatch anchored x) (patternOf env₂ mismatch anchored x) :=
  resolvePattern_same h

/-- Connectives stop at the same operand in both runs. -/
theorem evalLogical_same {op : Connective} {xs : List Expr}
    (h : ∀ x ∈ xs, SameUnless E (eval env₁ x) (eval env₂ x)) :
    SameUnless E (evalLogical env₁ mismatch op xs) (evalLogical env₂ mismatch op xs) := by
  induction xs with
  | nil => exact .rfl
  | cons x xs ih =>
    rw [List.forall_mem_cons] at h
    rw [evalLogical_cons, evalLogical_cons]
    refine (conditionOf_same h.1).bind fun b _ => ?_
    split
    · exact .rfl
    · exact ih h.2

/-- A concatenation reads the date format of the configuration at its dates. -/
theorem evalConcat_same {xs : List Expr}
    (h : ∀ x ∈ xs, SameUnless E (eval env₁ x) (eval env₂ x))
    (hf : ∀ x ∈ xs, x.kind = .date → env₁.config.dateFormat = env₂.config.dateFormat) :
    SameUnless E (evalConcat env₁ xs) (evalConcat env₂ xs) := by
  induction xs with
  | nil => exact .rfl
  | cons x xs ih =>
    rw [List.forall_mem_cons] at h hf
    rw [evalConcat_cons, evalConcat_cons]
    refine (valueOf_same h.1).bind fun v? hv => ?_
    cases v? with
    | none => exact .rfl
    | some v =>
      have hk : v.kind = x.kind := kind_of_valueOf hv
      have hr : v.render env₁.config.dateFormat = v.render env₂.config.dateFormat :=
        Value.render_congr fun hd => hf.1 (hk ▸ hd)
      exact (SameUnless.of_eq hr).bind fun s _ => (ih h.2 hf.2).bind fun _ _ => .rfl

/-! ### Expressions -/

/-- The environments have the same answers to what a node asks of them itself, where the first may
refuse a text by an error of `E` instead. -/
structure AgreeAt (E : EvalError → Prop) (env₁ env₂ : Environment) (n : Expr) : Prop where
  lookup : ∀ name, n = .attr name → env₁.lookup name = env₂.lookup name
  now : n = .now → env₁.now = env₂.now
  dateFormat : n.readsDateFormat → env₁.config.dateFormat = env₂.config.dateFormat
  patternInput : n.pattern?.isSome →
    ∀ s, SameUnless E (env₁.config.checkPatternInput s) (env₂.config.checkPatternInput s)

/-- One step of `eval_same`. -/
theorem eval_same_step {e : Expr} (h : AgreeAt E env₁ env₂ e)
    (ih : ∀ x ∈ e.operands, SameUnless E (eval env₁ x) (eval env₂ x)) :
    SameUnless E (eval env₁ e) (eval env₂ e) := by
  cases e with
  | literal r => exact .rfl
  | attr name =>
    rw [eval_attr, eval_attr, h.lookup name rfl]
    exact .rfl
  | now =>
    rw [eval_now, eval_now, h.now rfl]
    exact .rfl
  | convert target x format =>
    have hx := ih x (by simp [Expr.operands])
    rw [eval_convert, eval_convert]
    refine (valueOf_same hx).whenPresent fun v hv => ?_
    have hk : v.kind = x.kind := kind_of_valueOf hv
    -- a format of its own hides the configured one
    have hf : (Expr.convert target x none).readsDateFormat →
        format.or env₁.config.dateFormat = format.or env₂.config.dateFormat := by
      intro hr
      cases format with
      | none => exact h.dateFormat hr
      | some f => rfl
    rw [Value.convert_congr (g := format.or env₂.config.dateFormat)]
    · exact .rfl
    · rintro rfl hd
      exact hf (by simp [Expr.readsDateFormat, ← hk, hd])
    · rintro rfl hs
      exact hf (by simp [Expr.readsDateFormat, ← hk, hs])
  | unary op x =>
    have hx := ih x (by simp [Expr.operands])
    rw [eval_unary, eval_unary]
    exact hx.bind fun _ _ => .rfl
  | compare op x y =>
    have hx := ih x (by simp [Expr.operands])
    have hy := ih y (by simp [Expr.operands])
    rw [eval_compare, eval_compare]
    refine (valueOf_same hx).whenPresent fun a _ => ?_
    exact (valueOf_same hy).whenPresent fun b _ => .rfl
  | arithmetic op x y =>
    have hx := ih x (by simp [Expr.operands])
    have hy := ih y (by simp [Expr.operands])
    rw [eval_arithmetic, eval_arithmetic]
    refine (valueOf_same hx).bind fun a? _ => ?_
    exact (valueOf_same hy).bind fun b? _ => .rfl
  | logical op xs =>
    rw [eval_logical, eval_logical]
    exact (evalLogical_same ih).bind fun b _ => .rfl
  | ifElse c x y =>
    have hc := ih c (by simp [Expr.operands])
    have hx := ih x (by simp [Expr.operands])
    have hy := ih y (by simp [Expr.operands])
    rw [eval_ifElse, eval_ifElse]
    refine (conditionOf_same hc).bind fun b _ => branchOf_same ?_
    cases b with
    | false => exact hy
    | true => exact hx
  | replaceNull x y =>
    have hx := ih x (by simp [Expr.operands])
    have hy := ih y (by simp [Expr.operands])
    rw [eval_replaceNull, eval_replaceNull]
    -- both runs agree on whether the first operand is absent
    refine hx.bind fun r _ => ?_
    split
    · exact branchOf_same hy
    · exact .rfl
  | concat xs =>
    have hf : ∀ x ∈ xs, x.kind = .date → env₁.config.dateFormat = env₂.config.dateFormat := by
      intro x hx hd
      -- one date among the operands is enough to read the format
      refine h.dateFormat ?_
      rw [Expr.readsDateFormat, List.any_eq_true]
      exact ⟨x, hx, by simp [hd]⟩
    rw [eval_concat, eval_concat]
    exact (evalConcat_same ih hf).whenPresent fun s _ => .rfl
  | substringFrom x i =>
    have hx := ih x (by simp [Expr.operands])
    have hi := ih i (by simp [Expr.operands])
    rw [eval_substringFrom, eval_substringFrom]
    refine (textOf_same hx).whenPresent fun s _ => ?_
    exact (placeOf_same hi).whenPresent fun n _ => .rfl
  | substring x i j =>
    have hx := ih x (by simp [Expr.operands])
    have hi := ih i (by simp [Expr.operands])
    have hj := ih j (by simp [Expr.operands])
    rw [eval_substring, eval_substring]
    refine (textOf_same hx).whenPresent fun s _ => ?_
    refine (placeOf_same hi).whenPresent fun n _ => ?_
    exact (placeOf_same hj).whenPresent fun m _ => .rfl
  | test op x search y =>
    have hx := ih x (by simp [Expr.operands])
    have hy := ih y (by simp [Expr.operands])
    cases search with
    | text =>
      rw [eval_test_text, eval_test_text]
      refine (textOf_same hx).whenPresent fun s _ => ?_
      exact (textOf_same hy).whenPresent fun part _ => .rfl
    | pattern anchored =>
      rw [eval_test_pattern, eval_test_pattern]
      refine (textOf_same hx).whenPresent fun s _ => ?_
      split
      · refine (patternOf_same hy).whenPresent fun r _ => ?_
        -- the text is measured last, after the pattern has been made
        exact (h.patternInput rfl s).bind fun _ _ => .rfl
      · exact .rfl
  | replace x search y z =>
    have hx := ih x (by simp [Expr.operands])
    have hy := ih y (by simp [Expr.operands])
    have hz := ih z (by simp [Expr.operands])
    cases search with
    | text =>
      rw [eval_replace_text, eval_replace_text]
      refine (textOf_same hx).whenPresent fun s _ => ?_
      refine (textOf_same hz).whenPresent fun new _ => ?_
      exact (textOf_same hy).whenPresent fun old _ => .rfl
    | pattern anchored =>
      rw [eval_replace_pattern, eval_replace_pattern]
      refine (textOf_same hx).whenPresent fun s _ => ?_
      refine (textOf_same hz).whenPresent fun new _ => ?_
      refine (patternOf_same hy).whenPresent fun r _ => ?_
      exact (h.patternInput rfl s).bind fun _ _ => .rfl

/-- Two environments that agree at each node of a tree, up to errors in `E`, do so for the tree. -/
theorem eval_same {e : Expr} (h : ∀ n ∈ e.nodes, AgreeAt E env₁ env₂ n) :
    SameUnless E (eval env₁ e) (eval env₂ e) := by
  induction e using Expr.operands_induction with
  | step e ih =>
    refine eval_same_step (h e (Expr.mem_nodes_self e)) fun x hx => ih x hx fun n hn => ?_
    exact h n (Expr.mem_nodes_of_mem_operands hx hn)

/-! ### Inputs -/

/-- The environments agree on the inputs that the expression mentions, limits on texts apart. -/
structure SameInputs (env₁ env₂ : Environment) (e : Expr) : Prop where
  lookup : ∀ name, .attr name ∈ e.nodes → env₁.lookup name = env₂.lookup name
  now : .now ∈ e.nodes → env₁.now = env₂.now
  dateFormat : e.usesDateFormat = true → env₁.config.dateFormat = env₂.config.dateFormat

namespace SameInputs

variable {e : Expr}

/-- Environments need nothing in common for a tree that is the same in all of them. -/
theorem of_isFixed (h : e.isFixed) : SameInputs env₁ env₂ e := by
  rw [Expr.isFixed, Bool.and_eq_true, Bool.not_eq_true'] at h
  constructor
  · intro name hn
    cases Expr.readsContext_of_isConstant h.1 hn
  · intro hn
    cases Expr.readsContext_of_isConstant h.1 hn
  · intro hf
    rw [h.2] at hf
    cases hf

/-- Agreement on the inputs of a tree leaves the limits on patterns as the one difference. -/
theorem eval_same (h : SameInputs env₁ env₂ e)
    (hi : ∀ s, SameUnless E (env₁.config.checkPatternInput s) (env₂.config.checkPatternInput s)) :
    SameUnless E (eval env₁ e) (eval env₂ e) := by
  refine RecordExpr.eval_same fun n hn => ⟨?_, ?_, ?_, fun _ => hi⟩
  · rintro name rfl
    exact h.lookup name hn
  · rintro rfl
    exact h.now hn
  · intro hr
    exact h.dateFormat (List.any_eq_true.mpr ⟨n, hn, hr⟩)

/-- With the same limit on texts the outcomes are equal. -/
theorem eval_eq (h : SameInputs env₁ env₂ e)
    (hl : env₁.config.maxPatternInput = env₂.config.maxPatternInput) :
    eval env₁ e = eval env₂ e := by
  have hi : ∀ s, SameUnless (fun _ => False) (env₁.config.checkPatternInput s)
      (env₂.config.checkPatternInput s) := by
    intro s
    rw [Config.checkPatternInput, hl]
    exact .rfl
  rcases h.eval_same hi with he | ⟨_, hf, _⟩
  · exact he
  · exact hf.elim

end SameInputs

end RecordExpr
