import RecordExpr.Proofs.Date.Writable
import RecordExpr.Proofs.Eval.Agreement

/-!
# Errors of operators on values

An operator on values fails if they are of kinds that it does not take, and otherwise only in few
ways of its own. The errors are looked for among those of a set `E`: the hypotheses of a lemma
`errors_…` say what has to be in `E`, and under which circumstances. That operands of the right
kinds never raise the error `mismatch` is thus a matter of one hypothesis.
-/

namespace RecordExpr

variable {E : EvalError → Prop} {mismatch : EvalError}

/-! ### Results of one kind -/

/-- A condition is refused for its kind only. -/
theorem Result.errors_condition {r : Result} (hm : r.kind ≠ .boolean → E mismatch) :
    ErrorsIn E (r.condition mismatch) := by
  cases r with
  | absent k => exact .ok _
  | present v =>
    cases v with
    | boolean b => exact .ok _
    | _ => exact .error (hm (by simp [Result.kind, Value.kind]))

/-- A text is refused for its kind only. -/
theorem Result.errors_text {r : Result} (hm : r.kind ≠ .string → E mismatch) :
    ErrorsIn E (r.text mismatch) := by
  cases r with
  | absent k => exact .ok _
  | present v =>
    cases v with
    | string s => exact .ok _
    | _ => exact .error (hm (by simp [Result.kind, Value.kind]))

/-- A place in a text is refused for its kind only. -/
theorem Result.errors_place {r : Result} (hm : r.kind ≠ .wholeNumber → E mismatch) :
    ErrorsIn E (r.place mismatch) := by
  cases r with
  | absent k => exact .ok _
  | present v =>
    cases v with
    | wholeNumber n => exact .ok _
    | _ => exact .error (hm (by simp [Result.kind, Value.kind]))

theorem Result.errors_expectKind {k : Kind} {r : Result} (hm : r.kind ≠ k → E mismatch) :
    ErrorsIn E (r.expectKind mismatch k) := by
  unfold Result.expectKind
  split
  · exact .ok _
  · next hk => exact .error (hm hk)

/-! ### Texts and dates -/

/-- Only dates need a format, and fail to be written if it has a fault. -/
theorem Value.errors_render {v : Value} {format : Option String}
    (hw : v.kind = .date → ∀ f fault, format = some f → DateFormat.writeFault? f = some fault →
      E (.invalidDateFormat f fault)) :
    ErrorsIn E (v.render format) := by
  cases v with
  | date i =>
    rw [Value.render]
    intro err h
    obtain ⟨f, fault, hf, hfault, rfl⟩ := writeDate_eq_error_iff.mp h
    exact hw rfl f fault hf hfault
  | _ =>
    rw [Value.render]
    exact .ok _

theorem errors_orCoercionError {α : Type} {text : String} {k : Kind} {a? : Option α}
    (hc : E (.coercionFailed text k)) : ErrorsIn E (orCoercionError text k a?) := by
  cases a? with
  | none => exact .error hc
  | some a => exact .ok a

/-- A date is not read because of its text, or because of a format with an unknown specifier. -/
theorem errors_readDate {text : String} {format : Option String}
    (hc : E (.coercionFailed text .date))
    (hr : ∀ f, format = some f → DateFormat.items? f = none →
      E (.invalidDateFormat f .unknownSpecifier)) :
    ErrorsIn E (readDate text format) := by
  cases format with
  | none =>
    rw [readDate]
    exact errors_orCoercionError hc
  | some f =>
    rw [readDate]
    refine ErrorsIn.bind (fun err h => ?_) fun items _ => errors_orCoercionError hc
    obtain ⟨hi, rfl⟩ := dateFormatItems_eq_error_iff.mp h
    exact hr f rfl hi

/-- All ways in which a conversion of a value fails. -/
theorem Value.errors_convert {v : Value} {k : Kind} {format : Option String}
    (hm : v.kind ∉ k.conversionSources → E mismatch)
    (hc : ∀ text, E (.coercionFailed text k))
    (hw : k = .string → v.kind = .date → ∀ f fault, format = some f →
      DateFormat.writeFault? f = some fault → E (.invalidDateFormat f fault))
    (hr : k = .date → v.kind = .string → ∀ f, format = some f → DateFormat.items? f = none →
      E (.invalidDateFormat f .unknownSpecifier)) :
    ErrorsIn E (v.convert mismatch format k) := by
  -- reading a text fails with the text and the target, whatever is read
  have hread {α β : Type} {text : String} {a? : Option α} {f : α → β} :
      ErrorsIn E (orCoercionError text k a? >>= fun a => .ok (f a)) :=
    (errors_orCoercionError (hc text)).bind fun a _ => .ok _
  cases k with
  | string =>
    rw [Value.convert_string]
    exact (Value.errors_render (hw rfl)).bind fun s _ => .ok _
  | date =>
    cases v with
    | string s => exact (errors_readDate (hc s) (hr rfl rfl)).bind fun i _ => .ok _
    | wholeNumber n => exact hread
    | date i => exact .ok _
    | boolean _ | decimal _ => exact .error (hm (by simp [Value.kind, Kind.conversionSources]))
  | boolean =>
    cases v with
    | string s => exact hread
    | boolean b => exact .ok _
    | wholeNumber _ | decimal _ | date _ =>
      exact .error (hm (by simp [Value.kind, Kind.conversionSources]))
  | wholeNumber =>
    cases v with
    | string s => exact hread
    | decimal d => exact hread
    | wholeNumber _ | date _ => exact .ok _
    | boolean _ => exact .error (hm (by simp [Value.kind, Kind.conversionSources]))
  | decimal =>
    cases v with
    | string s => exact hread
    | wholeNumber _ | decimal _ | date _ => exact .ok _
    | boolean _ => exact .error (hm (by simp [Value.kind, Kind.conversionSources]))

/-! ### Numbers -/

theorem errors_orOverflow {α : Type} {operator : String} {a? : Option α}
    (ho : E (.overflow operator)) : ErrorsIn E (orOverflow operator a?) := by
  cases a? with
  | none => exact .error ho
  | some a => exact .ok a

/-- An operator with one operand fails for the kind of it or by overflow. -/
theorem Unary.errors_onValue {op : Unary} {v : Value} (hm : v.kind ∉ op.operandKinds → E mismatch)
    (ho : E (.overflow op.name)) : ErrorsIn E (op.onValue mismatch v) := by
  cases op with
  | isNull | notNull => cases v <;> exact .ok _
  | not =>
    cases v with
    | boolean b => exact .ok _
    | _ => exact .error (hm (by simp [Value.kind, operandKinds]))
  | negate =>
    cases v with
    | wholeNumber n => exact (errors_orOverflow ho).bind fun n _ => .ok _
    | decimal d => exact .ok _
    | _ => exact .error (hm (by simp [Value.kind, operandKinds]))
  | length =>
    cases v with
    | string s => exact (errors_orOverflow ho).bind fun n _ => .ok _
    | _ => exact .error (hm (by simp [Value.kind, operandKinds]))
  | isEmpty | toUpper | toLower | trim =>
    cases v with
    | string s => exact .ok _
    | _ => exact .error (hm (by simp [Value.kind, operandKinds]))

theorem Unary.errors_apply {op : Unary} {k : Kind} {r : Result}
    (hm : r.kind ∉ op.operandKinds → E mismatch) (ho : E (.overflow op.name)) :
    ErrorsIn E (op.apply mismatch k r) := by
  cases r with
  | absent l => exact .ok _
  | present v => exact (Unary.errors_onValue hm ho).bind fun w _ => .ok _

/-- Values of kinds that have a domain can be compared in it. -/
theorem Comparison.isSome_order? {op : Comparison} {a b : Value} {d : ComparisonDomain}
    (h : op.domain? a.kind b.kind = some d) : (d.order? a b).isSome := by
  cases a <;> cases b <;> simp only [Value.kind, Comparison.domain?, reduceCtorEq] at h
  case boolean.boolean =>
    split at h <;> cases h
    rfl
  all_goals
    cases h
    rfl

/-- A comparison fails only where it has no domain. -/
theorem Comparison.errors_onValues {op : Comparison} {a b : Value}
    (hm : op.domain? a.kind b.kind = none → E mismatch) :
    ErrorsIn E (op.onValues mismatch (op.domain? a.kind b.kind) a b) := by
  cases hd : op.domain? a.kind b.kind with
  | none => exact .error (hm hd)
  | some d =>
    obtain ⟨order, ho⟩ := Option.isSome_iff_exists.mp (Comparison.isSome_order? hd)
    rw [Comparison.onValues, Option.bind_some, ho]
    exact .ok _

/-- Whole numbers overflow, or are divided by zero. -/
theorem Arithmetic.errors_onWhole {op : Arithmetic} {a b : WholeNumber}
    (ho : E (.overflow op.name)) (hz : op = .divide ∨ op = .mod → E .divisionByZero) :
    ErrorsIn E (op.onWhole a b) := by
  cases op with
  | plus | minus | multiply => exact errors_orOverflow ho
  | divide | mod =>
    rw [Arithmetic.onWhole]
    split
    · exact .error (hz (by simp))
    · exact errors_orOverflow ho

/-- The end of the calendar is an overflow as well. -/
theorem Arithmetic.errors_shift {op : Arithmetic} {i : Instant} {n : WholeNumber}
    (hop : op = .plus ∨ op = .minus) (ho : E (.overflow op.name)) :
    ErrorsIn E (op.shift mismatch i n) := by
  rcases hop with rfl | rfl <;> exact errors_orOverflow ho

/-- What arithmetic in a domain works on. -/
def ArithmeticDomain.Operands (op : Arithmetic) (a b : Value) : ArithmeticDomain → Prop
  | wholeNumber => ∃ m n, a = .wholeNumber m ∧ b = .wholeNumber n
  | decimal => ∃ x y, a.widen? = some x ∧ b.widen? = some y
  | dateOffset => (op = .plus ∨ op = .minus) ∧ ∃ i n, a = .date i ∧ b = .wholeNumber n
  | dateDifference => ∃ i j, a = .date i ∧ b = .date j

/-- The domain of an operation fixes the kinds of its operands. -/
theorem Arithmetic.operands_of_domain? {op : Arithmetic} {a b : Value} {d : ArithmeticDomain}
    (h : op.domain? a.kind b.kind = some d) : d.Operands op a b := by
  cases op <;> cases a <;> cases b <;> cases h <;>
    simp [ArithmeticDomain.Operands, Value.widen?]

/-- All ways in which arithmetic on two values fails. -/
theorem Arithmetic.errors_onValues {op : Arithmetic} {a b : Value}
    (hm : op.domain? a.kind b.kind = none → E mismatch) (ho : E (.overflow op.name))
    (hz : op = .divide ∨ op = .mod → E .divisionByZero) :
    ErrorsIn E (op.onValues mismatch (op.domain? a.kind b.kind) a b) := by
  cases hd : op.domain? a.kind b.kind with
  | none => exact .error (hm hd)
  | some d =>
    have h := Arithmetic.operands_of_domain? hd
    cases d with
    | wholeNumber =>
      obtain ⟨m, n, rfl, rfl⟩ := h
      exact (Arithmetic.errors_onWhole ho hz).bind fun _ _ => .ok _
    | decimal =>
      obtain ⟨x, y, ha, hb⟩ := h
      rw [Arithmetic.onValues, ha, hb]
      exact .ok _
    | dateOffset =>
      obtain ⟨hop, i, n, rfl, rfl⟩ := h
      exact (Arithmetic.errors_shift hop ho).bind fun _ _ => .ok _
    | dateDifference =>
      obtain ⟨i, j, rfl, rfl⟩ := h
      exact .ok _

end RecordExpr
