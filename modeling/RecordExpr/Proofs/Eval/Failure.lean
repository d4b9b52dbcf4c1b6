import RecordExpr.Proofs.Eval.FixedPattern
import RecordExpr.Proofs.Eval.ValueErrors
import RecordExpr.Proofs.Expr.Fit

/-!
# Where errors come from

`Raises env n err` says what it takes for the node `n` to raise the error `err` itself: operands
that do not fit, a date format that cannot be used, a pattern that cannot be made, a text that is
too long for one, or values for which the operator is not defined. An error of an evaluation is
raised by some node of the expression (`exists_raises_of_eval_error`). The node is evaluated in the
environment at hand, or in the constant one if it is in the source of a pattern that belongs to the
expression; then it is fixed, as the source is.
-/

namespace RecordExpr

/-! ### Formats -/

namespace Expr

/-- The format in which a node writes dates, where `configured` is that of the configuration. -/
def writtenFormat? (configured : Option String) : Expr → Option String
  | convert .string x format => if x.kind = .date then format.or configured else none
  | concat xs => if ∃ x ∈ xs, x.kind = .date then configured else none
  | _ => none

/-- The format in which a node reads dates. -/
def readFormat? (configured : Option String) : Expr → Option String
  | convert .date x format => if x.kind = .string then format.or configured else none
  | _ => none

end Expr

/-! ### Nodes that raise errors -/

/-- The node raises the error if it is evaluated with suitable values of its operands. -/
inductive Raises (env : Environment) (n : Expr) : EvalError → Prop
  | misfit (h : ¬n.Fits) : Raises env n n.mismatch
  | searchMisfit (h : ¬n.SearchFits) : Raises env n n.mismatch
  | coercionFailed {target : Kind} {x : Expr} {format : Option String} (text : String)
    (h : n = .convert target x format) : Raises env n (.coercionFailed text target)
  | overflow : Raises env n (.overflow n.operator)
  | divisionByZero {op : Arithmetic} {x y : Expr} (h : n = .arithmetic op x y)
    (hop : op = .divide ∨ op = .mod) : Raises env n .divisionByZero
  | notWritten {f : String} {fault : FormatFault}
    (hf : n.writtenFormat? env.config.dateFormat = some f)
    (h : DateFormat.writeFault? f = some fault) : Raises env n (.invalidDateFormat f fault)
  | notRead {f : String} (hf : n.readFormat? env.config.dateFormat = some f)
    (h : DateFormat.items? f = none) : Raises env n (.invalidDateFormat f .unknownSpecifier)
  | fixedPattern {anchored : Bool} {source : Expr} {s : String} {fault : Regex.Fault}
    (hp : n.pattern? = some (anchored, source))
    (h : source.fixedPattern? anchored = some (.error (.invalidPattern s fault))) :
    Raises env n (.invalidPattern s fault)
  | freshPattern {anchored : Bool} {source : Expr} {s : String} {fault : Regex.Fault}
    (hp : n.pattern? = some (anchored, source)) (hf : source.fixedPattern? anchored = none)
    (hs : eval env source = .ok (.present (.string s)))
    (h : compilePattern s anchored = .error (.invalidPattern s fault)) :
    Raises env n (.invalidPattern s fault)
  | inputTooLarge {s : String} {err : EvalError} (hp : n.pattern?.isSome)
    (h : env.config.checkPatternInput s = .error err) : Raises env n err

variable {E : EvalError → Prop} {env : Environment} {mismatch : EvalError}

/-! ### Operands -/

/-- How an operand is read adds no error to its own but the one for its kind, here and below. -/
theorem errors_valueOf {x : Expr} (h : ErrorsIn E (eval env x)) : ErrorsIn E (valueOf env x) :=
  h.bind fun _ _ => .ok _

theorem errors_textOf {x : Expr} (h : ErrorsIn E (eval env x))
    (hm : x.kind ≠ .string → E mismatch) : ErrorsIn E (textOf env mismatch x) :=
  h.bind fun _ hr => Result.errors_text (kind_of_eval hr ▸ hm)

theorem errors_placeOf {x : Expr} (h : ErrorsIn E (eval env x))
    (hm : x.kind ≠ .wholeNumber → E mismatch) : ErrorsIn E (placeOf env mismatch x) :=
  h.bind fun _ hr => Result.errors_place (kind_of_eval hr ▸ hm)

theorem errors_conditionOf {x : Expr} (h : ErrorsIn E (eval env x))
    (hm : x.kind ≠ .boolean → E mismatch) : ErrorsIn E (conditionOf env mismatch x) :=
  h.bind fun _ hr => Result.errors_condition (kind_of_eval hr ▸ hm)

theorem errors_branchOf {k : Kind} {x : Expr} (h : ErrorsIn E (eval env x))
    (hm : x.kind ≠ k → E mismatch) : ErrorsIn E (branchOf env mismatch k x) :=
  h.bind fun _ hr => Result.errors_expectKind (kind_of_eval hr ▸ hm)

/-- A connective fails with an operand, or for the kind of one. -/
theorem errors_evalLogical {op : Connective} {xs : List Expr}
    (h : ∀ x ∈ xs, ErrorsIn E (eval env x)) (hm : ∀ x ∈ xs, x.kind ≠ .boolean → E mismatch) :
    ErrorsIn E (evalLogical env mismatch op xs) := by
  induction xs with
  | nil => exact .ok _
  | cons x xs ih =>
    rw [List.forall_mem_cons] at h hm
    rw [evalLogical_cons]
    refine (errors_conditionOf h.1 hm.1).bind fun b _ => ?_
    split
    · exact .ok b
    · exact ih h.2 hm.2

/-- A concatenation fails with an operand, or for a date that cannot be written. -/
theorem errors_evalConcat {xs : List Expr} (h : ∀ x ∈ xs, ErrorsIn E (eval env x))
    (hw : ∀ x ∈ xs, x.kind = .date → ∀ f fault, env.config.dateFormat = some f →
      DateFormat.writeFault? f = some fault → E (.invalidDateFormat f fault)) :
    ErrorsIn E (evalConcat env xs) := by
  induction xs with
  | nil => exact .ok _
  | cons x xs ih =>
    rw [List.forall_mem_cons] at h hw
    rw [evalConcat_cons]
    refine (errors_valueOf h.1).bind fun v? hv => ?_
    cases v? with
    | none => exact .ok none
    | some v =>
      have hk : v.kind = x.kind := kind_of_valueOf hv
      refine (Value.errors_render fun hd => hw.1 (hk ▸ hd)).bind fun s _ => ?_
      exact (ih h.2 hw.2).bind fun rest _ => .ok _

/-- A pattern fails with its source, with the stored outcome of it, or for its text. -/
theorem errors_patternOf {n source : Expr} {anchored : Bool}
    (hp : n.pattern? = some (anchored, source)) (hx : ErrorsIn E (eval env source))
    (hc : source.isFixed → ErrorsIn E (eval .constant source))
    (hm : source.kind ≠ .string → E mismatch)
    (hr : ∀ err, Raises env n err → E err) :
    ErrorsIn E (patternOf env mismatch anchored source) := by
  cases hf : source.fixedPattern? anchored with
  | none =>
    -- nothing is stored, so the text of the source is compiled now
    rw [patternOf_of_fixedPattern?_eq_none hf, freshPatternOf]
    refine (errors_textOf hx hm).bind fun s? hs => ?_
    cases s? with
    | none => exact .ok none
    | some s =>
      refine ErrorsIn.bind (fun err h => ?_) fun r _ => .ok _
      obtain ⟨fault, rfl⟩ := error_of_compilePattern h
      exact hr _ (.freshPattern hp hf (textOf_eq_some_iff.mp hs) h)
  | some c =>
    rw [patternOf, hf]
    cases c with
    | ok r => exact .ok _
    | error err =>
      refine .error ?_
      -- what is stored is an error of the source or of its text
      obtain ⟨hfix, ⟨err', hs, he⟩ | ⟨s, _, he⟩⟩ := fixedPattern?_eq_some_iff.mp hf
      · cases he
        exact hc hfix err hs
      · obtain ⟨fault, rfl⟩ := error_of_compilePattern he.symm
        exact hr _ (.fixedPattern hp hf)

/-! ### Expressions -/

theorem StringTest.usesPattern_of_onTexts? {op : StringTest} {s part : String}
    (h : op.onTexts? s part = none) : op.usesPattern := by
  cases op <;> first | rfl | cases h

/-- One step of `exists_raises_of_eval_error`: an error of a node that is none of its operands is
raised by the node itself. -/
theorem errors_eval_step {e : Expr} (hr : ∀ err, Raises env e err → E err)
    (hop : ∀ x ∈ e.operands, ErrorsIn E (eval env x))
    (hconst : ∀ x ∈ e.operands, x.isFixed → ErrorsIn E (eval .constant x)) :
    ErrorsIn E (eval env e) := by
  -- operators reject values, slots the kinds of operands, which are those of the values
  have hm (h : ¬e.Fits) : E e.mismatch := hr _ (.misfit h)
  cases e with
  | literal r => exact .ok r
  | attr name => exact .ok _
  | now => exact .ok _
  | convert target x format =>
    have hx := hop x (by simp [Expr.operands])
    rw [eval_convert]
    refine (errors_valueOf hx).whenPresent fun v hv => ?_
    have hk : v.kind = x.kind := kind_of_valueOf hv
    refine (Value.errors_convert ?_ ?_ ?_ ?_).bind fun w _ => .ok _
    · intro h
      exact hm (by rwa [Expr.fits_convert, ← hk])
    · intro text
      exact hr _ (.coercionFailed text rfl)
    · rintro rfl hd f fault hf hfault
      exact hr _ (.notWritten (by rw [Expr.writtenFormat?, if_pos (hk ▸ hd), hf]) hfault)
    · rintro rfl hs f hf hi
      exact hr _ (.notRead (by rw [Expr.readFormat?, if_pos (hk ▸ hs), hf]) hi)
  | unary op x =>
    have hx := hop x (by simp [Expr.operands])
    rw [eval_unary]
    refine hx.bind fun r h => ?_
    have hk : r.kind = x.kind := kind_of_eval h
    refine Unary.errors_apply (fun h => hm ?_) (hr _ .overflow)
    rwa [Expr.fits_unary, ← hk]
  | compare op x y =>
    have hx := hop x (by simp [Expr.operands])
    have hy := hop y (by simp [Expr.operands])
    rw [eval_compare]
    refine (errors_valueOf hx).whenPresent fun a ha => ?_
    refine (errors_valueOf hy).whenPresent fun b hb => ?_
    have hka : a.kind = x.kind := kind_of_valueOf ha
    have hkb : b.kind = y.kind := kind_of_valueOf hb
    rw [← hka, ← hkb]
    refine Comparison.errors_onValues fun h => hm ?_
    rw [Expr.fits_compare, ← hka, ← hkb]
    exact fun hne => hne h
  | arithmetic op x y =>
    have hx := hop x (by simp [Expr.operands])
    have hy := hop y (by simp [Expr.operands])
    rw [eval_arithmetic]
    refine (errors_valueOf hx).bind fun a? ha => ?_
    refine (errors_valueOf hy).bind fun b? hb => ?_
    refine (ErrorsIn.ok a?).whenPresent fun a h => ?_
    cases h
    refine (ErrorsIn.ok b?).whenPresent fun b h => ?_
    cases h
    have hka : a.kind = x.kind := kind_of_valueOf ha
    have hkb : b.kind = y.kind := kind_of_valueOf hb
    rw [← hka, ← hkb]
    refine (Arithmetic.errors_onValues (fun h => hm ?_) (hr _ .overflow) ?_).bind fun v _ => .ok _
    · rw [Expr.fits_arithmetic, ← hka, ← hkb]
      exact fun hne => hne h
    · intro hdiv
      exact hr _ (.divisionByZero rfl hdiv)
  | logical op xs =>
    rw [eval_logical]
    refine (errors_evalLogical hop fun x hx hk => hm ?_).bind fun b _ => .ok _
    rw [Expr.fits_logical]
    exact fun hall => hk (hall x hx)
  | ifElse c x y =>
    have hc := errors_conditionOf (hop c (by simp [Expr.operands])) fun hk => hm (by simp [hk])
    have hx := hop x (by simp [Expr.operands])
    have hy := hop y (by simp [Expr.operands])
    rw [eval_ifElse]
    refine hc.bind fun b _ => ?_
    cases b with
    | false =>
      refine errors_branchOf hy fun hk => hm ?_
      rw [Expr.fits_ifElse]
      exact fun h => hk h.2
    | true => exact errors_branchOf hx fun hk => absurd rfl hk
  | replaceNull x y =>
    have hx := hop x (by simp [Expr.operands])
    have hy := hop y (by simp [Expr.operands])
    rw [eval_replaceNull]
    refine hx.bind fun r _ => ?_
    split
    · exact errors_branchOf hy fun hk => hm (by simp [hk])
    · exact .ok r
  | concat xs =>
    rw [eval_concat]
    refine (errors_evalConcat hop fun x hx hd f fault hf hfault => ?_).whenPresent fun s _ => .ok _
    exact hr _ (.notWritten (by rw [Expr.writtenFormat?, if_pos ⟨x, hx, hd⟩, hf]) hfault)
  | substringFrom x i =>
    have hs := errors_textOf (hop x (by simp [Expr.operands])) fun hk => hm (by simp [hk])
    have hi := errors_placeOf (hop i (by simp [Expr.operands])) fun hk => hm (by simp [hk])
    rw [eval_substringFrom]
    refine hs.whenPresent fun s _ => hi.whenPresent fun n _ => ?_
    exact .ok _
  | substring x i j =>
    have hs := errors_textOf (hop x (by simp [Expr.operands])) fun hk => hm (by simp [hk])
    have hi := errors_placeOf (hop i (by simp [Expr.operands])) fun hk => hm (by simp [hk])
    have hj := errors_placeOf (hop j (by simp [Expr.operands])) fun hk => hm (by simp [hk])
    rw [eval_substring]
    refine hs.whenPresent fun s _ => hi.whenPresent fun n _ => hj.whenPresent fun m _ => ?_
    exact .ok _
  | test op x search y =>
    have hs := errors_textOf (hop x (by simp [Expr.operands])) fun hk => hm (by simp [hk])
    cases search with
    | text =>
      have hy := errors_textOf (hop y (by simp [Expr.operands])) fun hk => hm (by simp [hk])
      rw [eval_test_text]
      refine hs.whenPresent fun s _ => hy.whenPresent fun part _ => ?_
      cases ho : op.onTexts? s part with
      | none =>
        have hp : op.usesPattern := StringTest.usesPattern_of_onTexts? ho
        exact .error (hr _ (.searchMisfit (by simp [Expr.SearchFits, hp])))
      | some b => exact .ok _
    | pattern anchored =>
      have hy := errors_patternOf rfl (hop y (by simp [Expr.operands]))
        (hconst y (by simp [Expr.operands])) (fun hk => hm (by simp [hk])) hr
      rw [eval_test_pattern]
      refine hs.whenPresent fun s _ => ?_
      split
      · refine hy.whenPresent fun regex _ => ErrorsIn.bind (fun err h => ?_) fun _ _ => .ok _
        exact hr _ (.inputTooLarge rfl h)
      · next hp => exact .error (hr _ (.searchMisfit hp))
  | replace x search y z =>
    have hs := errors_textOf (hop x (by simp [Expr.operands])) fun hk => hm (by simp [hk])
    have hz := errors_textOf (hop z (by simp [Expr.operands])) fun hk => hm (by simp [hk])
    cases search with
    | text =>
      have hy := errors_textOf (hop y (by simp [Expr.operands])) fun hk => hm (by simp [hk])
      rw [eval_replace_text]
      refine hs.whenPresent fun s _ => hz.whenPresent fun new _ => hy.whenPresent fun old _ => ?_
      exact .ok _
    | pattern anchored =>
      have hy := errors_patternOf rfl (hop y (by simp [Expr.operands]))
        (hconst y (by simp [Expr.operands])) (fun hk => hm (by simp [hk])) hr
      rw [eval_replace_pattern]
      refine hs.whenPresent fun s _ => hz.whenPresent fun new _ => hy.whenPresent fun regex _ => ?_
      refine ErrorsIn.bind (fun err h => ?_) fun _ _ => .ok _
      exact hr _ (.inputTooLarge rfl h)

/-- An error of an evaluation is raised by some node, in this evaluation or in the one in advance of
a fixed source. -/
theorem exists_raises_of_eval_error {e : Expr} {err : EvalError} (h : eval env e = .error err) :
    ∃ n ∈ e.nodes, Raises env n err ∨ n.isFixed ∧ Raises .constant n err := by
  induction e using Expr.operands_induction generalizing env err with
  | step e ih =>
    have hop (x : Expr) (hx : x ∈ e.operands) (err : EvalError)
        (h : ∃ n ∈ x.nodes, Raises env n err ∨ n.isFixed ∧ Raises .constant n err) :
        ∃ n ∈ e.nodes, Raises env n err ∨ n.isFixed ∧ Raises .constant n err := by
      obtain ⟨n, hn, h⟩ := h
      exact ⟨n, Expr.mem_nodes_of_mem_operands hx hn, h⟩
    refine errors_eval_step
      (E := fun err => ∃ n ∈ e.nodes, Raises env n err ∨ n.isFixed ∧ Raises .constant n err)
      ?_ ?_ ?_ err h
    · exact fun err hr => ⟨e, Expr.mem_nodes_self e, .inl hr⟩
    · exact fun x hx err h => hop x hx err (ih x hx h)
    · intro x hx hfix err h
      obtain ⟨n, hn, h⟩ := ih x hx h
      -- the nodes of a fixed source are fixed, and its evaluation is the one in advance
      have hr : Raises .constant n err := h.elim id And.right
      exact hop x hx err ⟨n, hn, .inr ⟨Expr.isFixed_of_mem_nodes hfix hn, hr⟩⟩

/-! ### What a node with a given error is like -/

namespace Raises

variable {n : Expr}

/-- An evaluation is ill typed at a node that does not fit its operands or its pattern. -/
theorem illTyped_cases {operator : String} {expected : List (List Kind)} {actual : List Kind}
    (h : Raises env n (.illTyped operator expected actual)) :
    operator = n.operator ∧ (¬n.Fits ∨ ¬n.SearchFits) := by
  generalize he : EvalError.illTyped operator expected actual = err at h
  cases h with
  | misfit h =>
    cases he
    exact ⟨rfl, .inl h⟩
  | searchMisfit h =>
    cases he
    exact ⟨rfl, .inr h⟩
  | inputTooLarge _ h =>
    obtain ⟨length, limit, hl⟩ := isInputTooLarge_of_checkPatternInput h
    cases he.trans hl
  | _ => cases he

/-- A refused pattern is stored at a node or was made from the text of its source. -/
theorem invalidPattern_cases {s : String} {fault : Regex.Fault}
    (h : Raises env n (.invalidPattern s fault)) :
    ∃ anchored source, n.pattern? = some (anchored, source) ∧
      (source.fixedPattern? anchored = some (.error (.invalidPattern s fault)) ∨
        source.fixedPattern? anchored = none ∧ eval env source = .ok (.present (.string s)) ∧
          compilePattern s anchored = .error (.invalidPattern s fault)) := by
  generalize he : EvalError.invalidPattern s fault = err at h
  cases h with
  | fixedPattern hp h =>
    cases he
    exact ⟨_, _, hp, .inl h⟩
  | freshPattern hp hf hs h =>
    cases he
    exact ⟨_, _, hp, .inr ⟨hf, hs, h⟩⟩
  | inputTooLarge _ h =>
    obtain ⟨length, limit, hl⟩ := isInputTooLarge_of_checkPatternInput h
    cases he.trans hl
  | _ => cases he

/-- A date format is refused where a date is written or read in it. -/
theorem invalidDateFormat_cases {f : String} {fault : FormatFault}
    (h : Raises env n (.invalidDateFormat f fault)) :
    (n.writtenFormat? env.config.dateFormat = some f ∧ DateFormat.writeFault? f = some fault) ∨
      (n.readFormat? env.config.dateFormat = some f ∧ DateFormat.items? f = none) := by
  generalize he : EvalError.invalidDateFormat f fault = err at h
  cases h with
  | notWritten hf h =>
    cases he
    exact .inl ⟨hf, h⟩
  | notRead hf h =>
    cases he
    exact .inr ⟨hf, h⟩
  | inputTooLarge _ h =>
    obtain ⟨length, limit, hl⟩ := isInputTooLarge_of_checkPatternInput h
    cases he.trans hl
  | _ => cases he

end Raises

end RecordExpr
