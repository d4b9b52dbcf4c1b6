import Mathlib.Logic.Basic
import RecordExpr.Proofs.Eval.FixedPattern
import RecordExpr.Proofs.Expr.Fit

/-!
# Operands that do not fit

No operand is coerced to what its slot asks for. Where all operands are present and one is of a kind
that its slot does not accept, the node fails (`fails_of_misfit`), for every operator that reads all
of its operands. The error is that of the kinds, except where a pattern belongs to the expression
and its source could not be evaluated in advance.

Operators reject values by matching on them: `Value.convert_of_misfit` to `Result.place_of_misfit`
say that they reject the kinds that are missing in their signatures. An operand that is read is
either rejected, or of the kind that its slot accepts, and then the next one is read
(`HasValue.fails_textOf`, `HasValue.fails_placeOf`).
-/

namespace RecordExpr

variable {env : Environment} {E : EvalError → Prop} {mismatch : EvalError}

/-! ### Values of kinds that are not taken -/

section Values

variable {v : Value}

theorem Value.convert_of_misfit {format : Option String} {k : Kind}
    (h : v.kind ∉ k.conversionSources) : v.convert mismatch format k = .error mismatch := by
  cases k with
  | string => exact absurd (Kind.mem_all v.kind) h
  | boolean | wholeNumber | decimal | date =>
    cases v <;> simp [Value.kind, Kind.conversionSources] at h <;> rfl

theorem Unary.onValue_of_misfit {op : Unary} (h : v.kind ∉ op.operandKinds) :
    op.onValue mismatch v = .error mismatch := by
  cases op with
  | isNull | notNull => exact absurd (Kind.mem_all v.kind) h
  | not | negate | isEmpty | toUpper | toLower | trim | length =>
    cases v <;> simp [Value.kind, Unary.operandKinds] at h <;> rfl

theorem Result.text_of_misfit (h : v.kind ≠ .string) :
    (Result.present v).text mismatch = .error mismatch := by
  cases v <;> first | exact absurd rfl h | rfl

theorem Result.place_of_misfit (h : v.kind ≠ .wholeNumber) :
    (Result.present v).place mismatch = .error mismatch := by
  cases v <;> first | exact absurd rfl h | rfl

end Values

/-! ### Operands that are present -/

theorem FailsIn.whenPresent {α : Type} {x : Except EvalError (Option α)} (absent : Result)
    (f : α → Except EvalError Result) (h : FailsIn E x) : FailsIn E (whenPresent x absent f) :=
  h.bind _

/-- The expression has a value. -/
def HasValue (env : Environment) (x : Expr) : Prop := ∃ v, eval env x = .ok (.present v)

namespace HasValue

variable {x : Expr} {absent : Result}

theorem valueOf (h : HasValue env x) :
    ∃ v, v.kind = x.kind ∧ valueOf env x = .ok (some v) := by
  obtain ⟨v, hv⟩ := h
  exact ⟨v, kind_of_eval hv, valueOf_eq_some_iff.mpr hv⟩

theorem fails_textOf {f : String → Except EvalError Result} (h : HasValue env x)
    (hm : E mismatch) (hf : x.kind = .string → ∀ s, FailsIn E (f s)) :
    FailsIn E (whenPresent (textOf env mismatch x) absent f) := by
  obtain ⟨v, hv⟩ := h
  have hk : v.kind = x.kind := kind_of_eval hv
  by_cases hs : v.kind = .string
  · cases v with
    | string s =>
      rw [textOf_eq_some_iff.mpr hv, whenPresent_some]
      exact hf hk.symm s
    | _ => cases hs
  · rw [textOf, hv]
    show FailsIn E (whenPresent ((Result.present v).text mismatch) absent f)
    rw [Result.text_of_misfit hs]
    exact .error hm

theorem fails_placeOf {f : Nat → Except EvalError Result} (h : HasValue env x)
    (hm : E mismatch) (hf : x.kind = .wholeNumber → ∀ n, FailsIn E (f n)) :
    FailsIn E (whenPresent (placeOf env mismatch x) absent f) := by
  obtain ⟨v, hv⟩ := h
  have hk : v.kind = x.kind := kind_of_eval hv
  rw [placeOf, hv]
  show FailsIn E (whenPresent ((Result.present v).place mismatch) absent f)
  by_cases hs : v.kind = .wholeNumber
  · cases v with
    | wholeNumber n => exact hf hk.symm _
    | _ => cases hs
  · rw [Result.place_of_misfit hs]
    exact .error hm

end HasValue

/-! ### Nodes -/

namespace Expr

/-- Whether a node reads all of its operands where these are present. A connective, a choice and a
replacement for absence leave some out. -/
def readsAll : Expr → Bool
  | logical _ _ | ifElse _ _ _ | replaceNull _ _ => false
  | _ => true

/-- The errors of a node with an operand that does not fit: that of the kinds, and that of a pattern
whose source meets the limit on texts in the constant environment. -/
def MisfitError (e : Expr) (err : EvalError) : Prop :=
  err = e.mismatch ∨
    err.IsInputTooLarge ∧ ∃ anchored source, e.pattern? = some (anchored, source) ∧
      eval .constant source = .error err

end Expr

/-- A source that is no text is refused, unless it is one that could not be evaluated in advance. -/
theorem HasValue.fails_patternOf {e source : Expr} {anchored : Bool} (h : HasValue env source)
    (hp : e.pattern? = some (anchored, source)) (hk : source.kind ≠ .string) :
    FailsIn e.MisfitError (patternOf env e.mismatch anchored source) := by
  obtain ⟨v, hv⟩ := h
  cases hf : source.fixedPattern? anchored with
  | none =>
    have ht : textOf env e.mismatch source = .error e.mismatch := by
      rw [textOf, hv]
      have hkv : v.kind = source.kind := kind_of_eval hv
      exact Result.text_of_misfit (hkv ▸ hk)
    rw [patternOf_of_fixedPattern?_eq_none hf, freshPatternOf, ht]
    exact .error (.inl rfl)
  | some c =>
    obtain ⟨hfix, ⟨err, hs, rfl⟩ | ⟨s, hs, -⟩⟩ := fixedPattern?_eq_some_iff.mp hf
    · rw [patternOf, hf]
      refine .error (.inr ⟨?_, anchored, source, hp, hs⟩)
      -- the source has a value here, so it is the limit that keeps it from having one in advance
      rcases eval_eq_or_refuses_of_isFixed hfix env .constant with he | ⟨_, _, he⟩ | ⟨_, hl, he⟩
      · cases (hv.symm.trans he).trans hs
      · cases hv.symm.trans he
      · cases he.symm.trans hs
        exact hl
    · exact absurd (kind_of_eval hs).symm hk

/-- A node that reads all of its operands fails if these are present and one of them does not fit.
-/
theorem fails_of_misfit {e : Expr} (hr : e.readsAll) (hf : ¬e.Fits)
    (hv : ∀ x ∈ e.operands, HasValue env x) : FailsIn e.MisfitError (eval env e) := by
  have hm : e.MisfitError e.mismatch := .inl rfl
  -- operands are read from the left to the right, and the first that does not fit is rejected
  cases e with
  | literal r => exact absurd (by simp [Expr.Fits, Expr.slots]) hf
  | attr name => exact absurd (by simp [Expr.Fits, Expr.slots]) hf
  | now => exact absurd (by simp [Expr.Fits, Expr.slots]) hf
  | logical op xs => cases hr
  | ifElse c x y => cases hr
  | replaceNull x y => cases hr
  | concat xs => exact absurd Expr.fits_concat hf
  | convert target x format =>
    obtain ⟨v, hk, hx⟩ := (hv x (by simp [Expr.operands])).valueOf
    rw [Expr.fits_convert, ← hk] at hf
    rw [eval_convert, hx, whenPresent_some, Value.convert_of_misfit hf]
    exact .error hm
  | unary op x =>
    obtain ⟨v, hx⟩ := hv x (by simp [Expr.operands])
    have hk : v.kind = x.kind := kind_of_eval hx
    rw [Expr.fits_unary, ← hk] at hf
    rw [eval_unary, hx]
    refine FailsIn.bind _ (x := op.onValue _ v) ?_
    rw [Unary.onValue_of_misfit hf]
    exact .error hm
  | compare op x y =>
    obtain ⟨a, -, hx⟩ := (hv x (by simp [Expr.operands])).valueOf
    obtain ⟨b, -, hy⟩ := (hv y (by simp [Expr.operands])).valueOf
    rw [Expr.fits_compare, not_not] at hf
    rw [eval_compare, hx, whenPresent_some, hy, whenPresent_some, hf]
    exact .error hm
  | arithmetic op x y =>
    obtain ⟨a, -, hx⟩ := (hv x (by simp [Expr.operands])).valueOf
    obtain ⟨b, -, hy⟩ := (hv y (by simp [Expr.operands])).valueOf
    rw [Expr.fits_arithmetic, not_not] at hf
    rw [eval_arithmetic, hx, hy, hf]
    exact .error hm
  | substringFrom x i =>
    have hvx := hv x (by simp [Expr.operands])
    have hvi := hv i (by simp [Expr.operands])
    rw [Expr.fits_substringFrom] at hf
    rw [eval_substringFrom]
    refine hvx.fails_textOf hm fun hx s => ?_
    exact hvi.fails_placeOf hm fun hi n => absurd ⟨hx, hi⟩ hf
  | substring x i j =>
    have hvx := hv x (by simp [Expr.operands])
    have hvi := hv i (by simp [Expr.operands])
    have hvj := hv j (by simp [Expr.operands])
    rw [Expr.fits_substring] at hf
    rw [eval_substring]
    refine hvx.fails_textOf hm fun hx s => ?_
    refine hvi.fails_placeOf hm fun hi n => ?_
    exact hvj.fails_placeOf hm fun hj m => absurd ⟨hx, hi, hj⟩ hf
  | test op x search y =>
    have hvx := hv x (by simp [Expr.operands])
    have hvy := hv y (by simp [Expr.operands])
    rw [Expr.fits_test] at hf
    cases search with
    | text =>
      rw [eval_test_text]
      refine hvx.fails_textOf hm fun hx s => ?_
      exact hvy.fails_textOf hm fun hy part => absurd ⟨hx, hy⟩ hf
    | pattern anchored =>
      rw [eval_test_pattern]
      refine hvx.fails_textOf hm fun hx s => ?_
      split
      · exact (hvy.fails_patternOf rfl fun hy => hf ⟨hx, hy⟩).whenPresent _ _
      · exact .error hm
  | replace x search y z =>
    have hvx := hv x (by simp [Expr.operands])
    have hvy := hv y (by simp [Expr.operands])
    have hvz := hv z (by simp [Expr.operands])
    rw [Expr.fits_replace] at hf
    cases search with
    | text =>
      rw [eval_replace_text]
      refine hvx.fails_textOf hm fun hx s => ?_
      refine hvz.fails_textOf hm fun hz new => ?_
      exact hvy.fails_textOf hm fun hy old => absurd ⟨hx, hy, hz⟩ hf
    | pattern anchored =>
      rw [eval_replace_pattern]
      refine hvx.fails_textOf hm fun hx s => ?_
      refine hvz.fails_textOf hm fun hz new => ?_
      exact (hvy.fails_patternOf rfl fun hy => hf ⟨hx, hy, hz⟩).whenPresent _ _

/-- A number is not read as the pattern that its digits would be, although they are found. -/
theorem fails_of_misfit_number_as_pattern :
    let env : Environment := ⟨fun _ => some "0", .epoch, .default⟩
    let e := Expr.test .find (.attr "a") (.pattern false) (.literal (.present (.wholeNumber .zero)))
    ¬e.Fits ∧ FailsIn e.MisfitError (eval env e) := by
  intro env e
  have hf : ¬e.Fits := by simp [e, Expr.kind, Result.kind, Value.kind]
  refine ⟨hf, fails_of_misfit rfl hf ?_⟩
  simp only [e, Expr.operands, List.forall_mem_cons]
  exact ⟨⟨_, rfl⟩, ⟨_, rfl⟩, by simp⟩

end RecordExpr
