import Mathlib.Logic.Basic
import Mathlib.Tactic.ByContra
import RecordExpr.Proofs.Eval.FixedPattern
import RecordExpr.Proofs.Expr.Fit

/-!
# Absent operands

Operands are read one after another, and a node has a fixed result as soon as it comes to one that
is absent. With the default configuration, if all operands fit and have results, it always does:
those before the absent one are present and fit, and thus are read without errors (`PresentUnless`).
Only a pattern can be an error here, and it is always read last.

So an absent operand decides the result of a node, and without one there is a value or an error
(`YieldsIf`): a node that propagates absence is absent just if some operand is
(`yieldsIf_of_propagate`), and a comparison or a test is false then (`yieldsIf_of_compare`,
`yieldsIf_of_test`).
-/

namespace RecordExpr

variable {env : Environment} {mismatch : EvalError} {x : Expr}

/-- The result of the expression is absent. -/
def IsAbsentIn (env : Environment) (x : Expr) : Prop := ∃ k, eval env x = .ok (.absent k)

/-- The expression has a result. -/
def HasResult (env : Environment) (x : Expr) : Prop := ∃ r, eval env x = .ok r

/-! ### Reading an operand -/

/-- Nothing is read if `q` holds, and otherwise something is. -/
structure PresentUnless {α : Type} (q : Prop) (o : Except EvalError (Option α)) : Prop where
  nothing : q → o = .ok none
  something : ¬q → ∃ a, o = .ok (some a)

/-- An operand is read by a function that passes absence on and takes the values of its kind. -/
theorem presentUnless_of_read {α : Type} {f : Result → Except EvalError (Option α)}
    (h : HasResult env x) (ha : ∀ k, f (.absent k) = .ok none)
    (hp : ∀ v, v.kind = x.kind → ∃ a, f (.present v) = .ok (some a)) :
    PresentUnless (IsAbsentIn env x) (eval env x >>= f) := by
  obtain ⟨r, hr⟩ := h
  rw [hr]
  cases r with
  | absent k => exact ⟨fun _ => ha k, fun hn => absurd ⟨k, hr⟩ hn⟩
  | present v =>
    refine ⟨?_, fun _ => hp v (kind_of_eval hr)⟩
    rintro ⟨k, hk⟩
    cases hr.symm.trans hk

/-- An operand has a value unless it is absent. -/
theorem presentUnless_valueOf (h : HasResult env x) :
    PresentUnless (IsAbsentIn env x) (valueOf env x) :=
  presentUnless_of_read h (fun _ => rfl) fun v _ => ⟨v, rfl⟩

/-- So has an operand that is read as text, when its kind is string. -/
theorem presentUnless_textOf (h : HasResult env x) (hk : x.kind = .string) :
    PresentUnless (IsAbsentIn env x) (textOf env mismatch x) := by
  refine presentUnless_of_read h (fun _ => rfl) fun v hv => ?_
  rw [hk] at hv
  cases v with
  | string s => exact ⟨s, rfl⟩
  | _ => cases hv

/-- And one that is read as a place, when its kind is whole number. -/
theorem presentUnless_placeOf (h : HasResult env x) (hk : x.kind = .wholeNumber) :
    PresentUnless (IsAbsentIn env x) (placeOf env mismatch x) := by
  refine presentUnless_of_read h (fun _ => rfl) fun v hv => ?_
  rw [hk] at hv
  cases v with
  | wholeNumber n => exact ⟨_, rfl⟩
  | _ => cases hv

/-- Values of every kind can be written where no date format is configured. -/
theorem Value.exists_render (v : Value) : ∃ s, v.render none = .ok s := by
  cases v <;> exact ⟨_, rfl⟩

/-- The texts of a concatenation are there unless one of them is absent. -/
theorem presentUnless_evalConcat {xs : List Expr} (hc : env.config.dateFormat = none)
    (h : ∀ x ∈ xs, HasResult env x) :
    PresentUnless (∃ x ∈ xs, IsAbsentIn env x) (evalConcat env xs) := by
  induction xs with
  | nil => exact ⟨by simp, fun _ => ⟨"", rfl⟩⟩
  | cons x xs ih =>
    rw [List.forall_mem_cons] at h
    have hx := presentUnless_valueOf h.1
    have hxs := ih h.2
    simp only [evalConcat_cons, hc, List.mem_cons, exists_eq_or_imp]
    -- the operands after an absent one do not matter, and neither do those before it
    by_cases ha : IsAbsentIn env x
    · rw [hx.nothing ha]
      exact ⟨fun _ => rfl, fun hn => absurd (.inl ha) hn⟩
    · obtain ⟨v, hv⟩ := hx.something ha
      obtain ⟨s, hs⟩ := v.exists_render
      rw [hv]
      simp only [ha, false_or]
      constructor
      · intro hq
        show v.render none >>= _ = _
        rw [hs, hxs.nothing hq]
        rfl
      · intro hq
        obtain ⟨rest, hrest⟩ := hxs.something hq
        refine ⟨s ++ rest, ?_⟩
        show v.render none >>= _ = _
        rw [hs, hrest]
        rfl

/-- With the default configuration there is no pattern just where the source is absent. -/
theorem patternOf_eq_none_iff {anchored : Bool} (hc : env.config = .default)
    (h : HasResult env x) (hk : x.kind = .string) :
    patternOf env mismatch anchored x = .ok none ↔ IsAbsentIn env x := by
  -- under the configuration that it was made with, a stored pattern is as good as a fresh one
  have hfresh : patternOf env mismatch anchored x = freshPatternOf env mismatch anchored x := by
    cases hf : x.fixedPattern? anchored with
    | none => exact patternOf_of_fixedPattern?_eq_none hf
    | some c =>
      refine patternOf_of_eval_eq (eval_eq_of_isFixed (isFixed_of_fixedPattern? hf) ?_)
      rw [hc]
      rfl
  have hx : PresentUnless (IsAbsentIn env x) (textOf env mismatch x) := presentUnless_textOf h hk
  rw [hfresh, freshPatternOf]
  constructor
  · intro hn
    by_contra ha
    obtain ⟨s, hs⟩ := hx.something ha
    rw [hs] at hn
    obtain ⟨_, ⟨⟩, hn⟩ := bind_eq_ok_iff.mp hn
    obtain ⟨r, _, hr⟩ := bind_eq_ok_iff.mp hn
    cases hr
  · intro ha
    rw [hx.nothing ha]
    rfl

/-! ### What a node makes of it -/

/-- A result that is there. -/
def Result.IsPresent (r : Result) : Prop := ∃ v, r = .present v

/-- The outcome is a certain result if `q` holds, and otherwise it is not absent. -/
structure YieldsIf (q : Prop) (r : Result) (o : Except EvalError Result) : Prop where
  yields : q → o = .ok r
  present : ¬q → ResultsIn Result.IsPresent o

namespace YieldsIf

variable {α : Type} {p q : Prop} {r : Result} {o : Except EvalError (Option α)}
  {f : α → Except EvalError Result}

theorem congr {o : Except EvalError Result} (hpq : p ↔ q) (h : YieldsIf q r o) :
    YieldsIf p r o := by
  rwa [propext hpq]

/-- An operand is read, and others after it. -/
theorem whenPresent (ho : PresentUnless q o) (hf : ∀ a, YieldsIf p r (f a)) :
    YieldsIf (q ∨ p) r (whenPresent o r f) := by
  by_cases hq : q
  · rw [ho.nothing hq]
    exact ⟨fun _ => rfl, fun hn => absurd (.inl hq) hn⟩
  · obtain ⟨a, ha⟩ := ho.something hq
    rw [ha, whenPresent_some]
    exact .congr (or_iff_right hq) (hf a)

/-- The last operand is read, which may be an error. -/
theorem whenPresent_last (ho : o = .ok none ↔ q) (hf : ∀ a, ResultsIn Result.IsPresent (f a)) :
    YieldsIf q r (RecordExpr.whenPresent o r f) := by
  constructor
  · intro hq
    rw [ho.mpr hq, whenPresent_none]
  · intro hq
    refine .bind fun a? ha => ?_
    cases a? with
    | none => exact absurd (ho.mp ha) hq
    | some a => exact hf a

end YieldsIf

/-- Absence comes from what it is blamed on, and from nothing else. -/
theorem PresentUnless.eq_none_iff {α : Type} {q : Prop} {o : Except EvalError (Option α)}
    (h : PresentUnless q o) : o = .ok none ↔ q := by
  refine ⟨fun ho => ?_, h.nothing⟩
  by_contra hq
  obtain ⟨a, ha⟩ := h.something hq
  cases ho.symm.trans ha

theorem results_present (v : Value) : ResultsIn Result.IsPresent (.ok (.present v)) := .ok ⟨v, rfl⟩

theorem results_present_of_bind {α : Type} {o : Except EvalError α} (f : α → Value) :
    ResultsIn Result.IsPresent (o >>= fun a => .ok (.present (f a))) :=
  .bind fun a _ => results_present (f a)

theorem Comparison.results_present {op : Comparison} {domain : Option ComparisonDomain}
    {a b : Value} : ResultsIn Result.IsPresent (op.onValues mismatch domain a b) := by
  unfold Comparison.onValues
  split
  · exact RecordExpr.results_present _
  · exact .error _

/-- A test on two texts answers, or does not apply to texts. -/
theorem StringTest.results_present {op : StringTest} {s part : String} :
    ResultsIn Result.IsPresent (match op.onTexts? s part with
      | some b => .ok (.present (.boolean b))
      | none => .error mismatch) := by
  split
  · exact RecordExpr.results_present _
  · exact .error _

/-! ### Nodes -/

/-- Some operand is absent. -/
def HasAbsentOperand (env : Environment) (e : Expr) : Prop := ∃ x ∈ e.operands, IsAbsentIn env x

/-- A comparison is false exactly with an absent side, as far as its presence goes. -/
theorem yieldsIf_of_compare {op : Comparison} {y : Expr}
    (hr : ∀ z ∈ (Expr.compare op x y).operands, HasResult env z) :
    YieldsIf (HasAbsentOperand env (.compare op x y)) (.present (.boolean false))
      (eval env (.compare op x y)) := by
  have hx := presentUnless_valueOf (hr x (by simp [Expr.operands]))
  have hy := presentUnless_valueOf (hr y (by simp [Expr.operands]))
  have hiff : HasAbsentOperand env (.compare op x y) ↔ IsAbsentIn env x ∨ IsAbsentIn env y := by
    simp [HasAbsentOperand, Expr.operands]
  rw [eval_compare]
  refine .congr hiff (.whenPresent hx fun a => .whenPresent_last hy.eq_none_iff fun b => ?_)
  exact Comparison.results_present

/-- A test on texts is false if one of them is absent, the pattern included. -/
theorem yieldsIf_of_test {op : StringTest} {search : Search} {y : Expr}
    (hc : env.config = .default) (hf : (Expr.test op x search y).Fits)
    (hs : (Expr.test op x search y).SearchFits)
    (hr : ∀ z ∈ (Expr.test op x search y).operands, HasResult env z) :
    YieldsIf (HasAbsentOperand env (.test op x search y)) (.present (.boolean false))
      (eval env (.test op x search y)) := by
  have hrx := hr x (by simp [Expr.operands])
  have hry := hr y (by simp [Expr.operands])
  obtain ⟨hkx, hky⟩ := Expr.fits_test.mp hf
  have hiff : HasAbsentOperand env (.test op x search y) ↔ IsAbsentIn env x ∨ IsAbsentIn env y := by
    simp [HasAbsentOperand, Expr.operands]
  refine .congr hiff ?_
  cases search with
  | text =>
    rw [eval_test_text]
    refine .whenPresent (presentUnless_textOf hrx hkx) fun s => ?_
    refine .whenPresent_last (presentUnless_textOf hry hky).eq_none_iff fun part => ?_
    exact StringTest.results_present
  | pattern anchored =>
    -- a test that does not take patterns would fail here
    have hop : op.usesPattern := hs
    rw [eval_test_pattern]
    refine .whenPresent (presentUnless_textOf hrx hkx) fun s => ?_
    rw [if_pos hop]
    refine .whenPresent_last (patternOf_eq_none_iff hc hry hky) fun regex => ?_
    exact results_present_of_bind _

/-- The operators with one operand that pass absence on. -/
theorem yieldsIf_of_unary {op : Unary} (hp : op.nullPolicy = .propagate) (hr : HasResult env x) :
    YieldsIf (IsAbsentIn env x) (.absent (Expr.unary op x).kind) (eval env (.unary op x)) := by
  obtain ⟨r, hr⟩ := hr
  rw [eval_unary, hr]
  cases r with
  | absent k =>
    refine ⟨fun _ => ?_, fun hn => absurd ⟨k, hr⟩ hn⟩
    cases op <;> first | rfl | cases hp
  | present v =>
    refine ⟨?_, fun _ => results_present_of_bind id⟩
    rintro ⟨k, hk⟩
    cases hr.symm.trans hk

/-- Arithmetic passes absence on from either side. -/
theorem yieldsIf_of_arithmetic {op : Arithmetic} {y : Expr} (hx : HasResult env x)
    (hy : HasResult env y) :
    YieldsIf (IsAbsentIn env x ∨ IsAbsentIn env y) (.absent (Expr.arithmetic op x y).kind)
      (eval env (.arithmetic op x y)) := by
  have hx := presentUnless_valueOf hx
  have hy := presentUnless_valueOf hy
  rw [eval_arithmetic]
  -- both operands are read before absence counts
  by_cases hqx : IsAbsentIn env x
  · rw [hx.nothing hqx]
    refine ⟨fun _ => ?_, fun hn => absurd (.inl hqx) hn⟩
    by_cases hqy : IsAbsentIn env y
    · rw [hy.nothing hqy]
      rfl
    · obtain ⟨b, hb⟩ := hy.something hqy
      rw [hb]
      rfl
  · obtain ⟨a, ha⟩ := hx.something hqx
    rw [ha]
    refine .congr (or_iff_right hqx) (.whenPresent_last hy.eq_none_iff fun b => ?_)
    exact results_present_of_bind id

theorem yieldsIf_of_substringFrom {i : Expr} (hf : (Expr.substringFrom x i).Fits)
    (hrx : HasResult env x) (hri : HasResult env i) :
    YieldsIf (IsAbsentIn env x ∨ IsAbsentIn env i) (.absent .string)
      (eval env (.substringFrom x i)) := by
  obtain ⟨hkx, hki⟩ := Expr.fits_substringFrom.mp hf
  rw [eval_substringFrom]
  refine .whenPresent (presentUnless_textOf hrx hkx) fun s => ?_
  exact .whenPresent_last (presentUnless_placeOf hri hki).eq_none_iff fun n => results_present _

theorem yieldsIf_of_substring {i j : Expr} (hf : (Expr.substring x i j).Fits)
    (hrx : HasResult env x) (hri : HasResult env i) (hrj : HasResult env j) :
    YieldsIf (IsAbsentIn env x ∨ IsAbsentIn env i ∨ IsAbsentIn env j) (.absent .string)
      (eval env (.substring x i j)) := by
  obtain ⟨hkx, hki, hkj⟩ := Expr.fits_substring.mp hf
  rw [eval_substring]
  refine .whenPresent (presentUnless_textOf hrx hkx) fun s => ?_
  refine .whenPresent (presentUnless_placeOf hri hki) fun n => ?_
  exact .whenPresent_last (presentUnless_placeOf hrj hkj).eq_none_iff fun m => results_present _

/-- What is searched for is read last, after the replacement. -/
theorem yieldsIf_of_replace {search : Search} {y z : Expr} (hc : env.config = .default)
    (hf : (Expr.replace x search y z).Fits) (hrx : HasResult env x) (hry : HasResult env y)
    (hrz : HasResult env z) :
    YieldsIf (IsAbsentIn env x ∨ IsAbsentIn env z ∨ IsAbsentIn env y) (.absent .string)
      (eval env (.replace x search y z)) := by
  obtain ⟨hkx, hky, hkz⟩ := Expr.fits_replace.mp hf
  cases search with
  | text =>
    rw [eval_replace_text]
    refine .whenPresent (presentUnless_textOf hrx hkx) fun s => ?_
    refine .whenPresent (presentUnless_textOf hrz hkz) fun new => ?_
    exact .whenPresent_last (presentUnless_textOf hry hky).eq_none_iff fun old => results_present _
  | pattern anchored =>
    rw [eval_replace_pattern]
    refine .whenPresent (presentUnless_textOf hrx hkx) fun s => ?_
    refine .whenPresent (presentUnless_textOf hrz hkz) fun new => ?_
    refine .whenPresent_last (patternOf_eq_none_iff hc hry hky) fun regex => ?_
    exact results_present_of_bind _

/-- Every operator that passes absence on does so, and is not absent for another reason. -/
theorem yieldsIf_of_propagate {e : Expr} (hc : env.config = .default) (hf : e.Fits)
    (hp : e.nullPolicy = .propagate) (ho : e.operands ≠ [])
    (hr : ∀ x ∈ e.operands, HasResult env x) :
    YieldsIf (HasAbsentOperand env e) (.absent e.kind) (eval env e) := by
  cases e with
  -- nodes without operands, and those with another policy
  | literal _ | attr _ | now => exact absurd rfl ho
  | compare _ _ _ | logical _ _ | ifElse _ _ _ | replaceNull _ _ | test _ _ _ _ => cases hp
  | convert target x format =>
    have hx := presentUnless_valueOf (hr x (by simp [Expr.operands]))
    have hiff : HasAbsentOperand env (.convert target x format) ↔ IsAbsentIn env x := by
      simp [HasAbsentOperand, Expr.operands]
    rw [eval_convert]
    exact .congr hiff (.whenPresent_last hx.eq_none_iff fun v => results_present_of_bind id)
  | unary op x =>
    have hiff : HasAbsentOperand env (.unary op x) ↔ IsAbsentIn env x := by
      simp [HasAbsentOperand, Expr.operands]
    exact .congr hiff (yieldsIf_of_unary hp (hr x (by simp [Expr.operands])))
  | arithmetic op x y =>
    have hiff : HasAbsentOperand env (.arithmetic op x y) ↔
        IsAbsentIn env x ∨ IsAbsentIn env y := by
      simp [HasAbsentOperand, Expr.operands]
    refine .congr hiff (yieldsIf_of_arithmetic ?_ ?_)
    · exact hr x (by simp [Expr.operands])
    · exact hr y (by simp [Expr.operands])
  | concat xs =>
    -- dates are written in RFC 3339, so that every operand has a text
    have hdate : env.config.dateFormat = none := by
      rw [hc]
      rfl
    rw [eval_concat]
    refine .whenPresent_last (presentUnless_evalConcat hdate hr).eq_none_iff fun s => ?_
    exact results_present _
  | substringFrom x i =>
    have hiff : HasAbsentOperand env (.substringFrom x i) ↔
        IsAbsentIn env x ∨ IsAbsentIn env i := by
      simp [HasAbsentOperand, Expr.operands]
    refine .congr hiff (yieldsIf_of_substringFrom hf ?_ ?_)
    · exact hr x (by simp [Expr.operands])
    · exact hr i (by simp [Expr.operands])
  | substring x i j =>
    have hiff : HasAbsentOperand env (.substring x i j) ↔
        IsAbsentIn env x ∨ IsAbsentIn env i ∨ IsAbsentIn env j := by
      simp [HasAbsentOperand, Expr.operands]
    refine .congr hiff (yieldsIf_of_substring hf ?_ ?_ ?_)
    · exact hr x (by simp [Expr.operands])
    · exact hr i (by simp [Expr.operands])
    · exact hr j (by simp [Expr.operands])
  | replace x search y z =>
    have hiff : HasAbsentOperand env (.replace x search y z) ↔
        IsAbsentIn env x ∨ IsAbsentIn env z ∨ IsAbsentIn env y := by
      -- the replacement is read before the pattern
      simp [HasAbsentOperand, Expr.operands, or_comm]
    refine .congr hiff (yieldsIf_of_replace hc hf ?_ ?_ ?_)
    · exact hr x (by simp [Expr.operands])
    · exact hr y (by simp [Expr.operands])
    · exact hr z (by simp [Expr.operands])

end RecordExpr
