import RecordExpr.Proofs.Decimal.ReadBack
import RecordExpr.Proofs.Eval.WholePart

/-!
# Values that differ in a NaN at most

There are many NaNs, which differ in bits that nothing looks at. Values are alike if they are equal
or both NaN (`Value.Alike`). Operators take values that are alike to results that are alike
(`Value.convert_alike`, `Unary.apply_alike`, `Comparison.onValues_congr`,
`Arithmetic.onValues_alike`). A NaN is written as the same text as any other one and makes every
sum, product and remainder the quiet NaN; it keeps its bits only where it is passed on, or has its
sign turned.
-/

namespace RecordExpr

variable {a b c d : Decimal} {u u' v v' w : Value} {r s : Result}

/-- The same bits, or NaN on both sides. -/
inductive Decimal.Alike : Decimal → Decimal → Prop
  | refl (d : Decimal) : Alike d d
  | nan {a b : Decimal} (ha : a.isNaN = true) (hb : b.isNaN = true) : Alike a b

inductive Value.Alike : Value → Value → Prop
  | refl (v : Value) : Alike v v
  | nan {a b : Decimal} (ha : a.isNaN = true) (hb : b.isNaN = true) :
    Alike (.decimal a) (.decimal b)

inductive Result.Alike : Result → Result → Prop
  | absent (k : Kind) : Alike (.absent k) (.absent k)
  | present {v w : Value} (h : v.Alike w) : Alike (.present v) (.present w)

/-- NaN is alike to NaN only, so likeness passes on. -/
theorem Decimal.Alike.trans (hab : a.Alike b) (hbc : b.Alike c) : a.Alike c := by
  cases hab with
  | refl => exact hbc
  | nan ha hb =>
    cases hbc with
    | refl => exact .nan ha hb
    | nan _ hc => exact .nan ha hc

/-- Only NaN has different bits for the same decimal. -/
theorem Decimal.Alike.eq_of_isNaN_eq_false (h : a.Alike b) (ha : a.isNaN = false) : a = b := by
  cases h with
  | refl => rfl
  | nan ha' _ => cases ha.symm.trans ha'

theorem Decimal.Alike.decimal (h : a.Alike b) : Value.Alike (.decimal a) (.decimal b) := by
  cases h with
  | refl => exact .refl _
  | nan ha hb => exact .nan ha hb

theorem Result.Alike.refl (r : Result) : r.Alike r := by
  cases r with
  | absent k => exact .absent k
  | present v => exact .present (.refl v)

/-! ### Decimals -/

namespace Decimal

theorem isNaN_neg (d : Decimal) : d.neg.isNaN = d.isNaN := by
  rw [neg, isNaN, magnitude_ofMagnitude _ d.magnitude_lt, isNaN]

/-- NaN has no place in the order. -/
theorem compare?_of_isNaN (h : a.isNaN = true ∨ b.isNaN = true) : compare? a b = none := by
  rw [compare?, if_pos (by simpa using h)]

/-- All NaN compare alike, namely with nothing. -/
theorem Alike.compare?_congr (hab : a.Alike b) (hcd : c.Alike d) : compare? a c = compare? b d := by
  cases hab with
  | refl =>
    cases hcd with
    | refl => rfl
    | nan hc hd => rw [compare?_of_isNaN (.inr hc), compare?_of_isNaN (.inr hd)]
  | nan ha hb => rw [compare?_of_isNaN (.inl ha), compare?_of_isNaN (.inl hb)]

/-- All NaN have the same text. -/
theorem Alike.render_congr (h : a.Alike b) : a.render = b.render := by
  cases h with
  | refl => rfl
  | nan ha hb => rw [render_of_isNaN ha, render_of_isNaN hb]

/-- There is no whole number for NaN. -/
theorem wholeOfDecimal_of_isNaN (h : d.isNaN = true) :
    wholeOfDecimal d = .error (.coercionFailed "NaN" .wholeNumber) := by
  rw [wholeOfDecimal_eq, isFinite_of_isNaN h, renderPlain_of_isNaN h]
  rfl

theorem Alike.wholeOfDecimal_congr (h : a.Alike b) : wholeOfDecimal a = wholeOfDecimal b := by
  cases h with
  | refl => rfl
  | nan ha hb => rw [wholeOfDecimal_of_isNaN ha, wholeOfDecimal_of_isNaN hb]

/-- The sign of NaN does not make it another decimal. -/
theorem Alike.neg (h : a.Alike b) : a.neg.Alike b.neg := by
  cases h with
  | refl => exact .refl _
  | nan ha hb => exact .nan (by rw [isNaN_neg, ha]) (by rw [isNaN_neg, hb])

end Decimal

/-- Arithmetic with NaN leads to NaN. -/
theorem Arithmetic.onDecimals_of_isNaN (op : Arithmetic) (h : a.isNaN = true ∨ b.isNaN = true) :
    op.onDecimals a b = .nan := by
  have h' : (a.isNaN || b.isNaN) = true := by simpa using h
  cases op with
  | plus => exact if_pos h'
  | minus =>
    rw [onDecimals, Decimal.sub]
    split
    · rfl
    · next hb => exact if_pos (by rw [h.resolve_right hb]; rfl)
  | multiply => exact if_pos h'
  | divide => exact if_pos h'
  | mod => exact if_pos (by rw [h']; rfl)

/-- Arithmetic cannot tell one NaN from another. -/
theorem Arithmetic.onDecimals_alike (op : Arithmetic) (hab : a.Alike b) (hcd : c.Alike d) :
    (op.onDecimals a c).Alike (op.onDecimals b d) := by
  have hnan {a b c d : Decimal} (hac : a.isNaN = true ∨ c.isNaN = true)
      (hbd : b.isNaN = true ∨ d.isNaN = true) : (op.onDecimals a c).Alike (op.onDecimals b d) := by
    rw [op.onDecimals_of_isNaN hac, op.onDecimals_of_isNaN hbd]
    exact .refl _
  cases hab with
  | refl =>
    cases hcd with
    | refl => exact .refl _
    | nan hc hd => exact hnan (.inr hc) (.inr hd)
  | nan ha hb => exact hnan (.inl ha) (.inl hb)

/-! ### Values -/

namespace Value

theorem Alike.kind_eq (h : v.Alike w) : v.kind = w.kind := by
  cases h <;> rfl

theorem Alike.render_congr (h : v.Alike w) (format : Option String) :
    v.render format = w.render format := by
  cases h with
  | refl => rfl
  | nan ha hb => exact congrArg Except.ok (Decimal.Alike.render_congr (.nan ha hb))

/-- Values that are alike are alike as decimals. -/
theorem Alike.widen? (h : v.Alike w) : Option.Rel Decimal.Alike v.widen? w.widen? := by
  cases h with
  | refl =>
    cases v.widen? with
    | none => exact .none
    | some d => exact .some (.refl d)
  | nan ha hb => exact .some (.nan ha hb)

/-- A conversion gives values that are alike, or the same error. -/
theorem convert_alike (h : v.Alike w) (mismatch : EvalError) (format : Option String) (k : Kind) :
    Related Alike (v.convert mismatch format k) (w.convert mismatch format k) := by
  cases h with
  | refl => exact .of_eq .refl rfl
  | @nan a b ha hb =>
    have hab : a.Alike b := .nan ha hb
    cases k with
    | string =>
      refine .of_eq .refl (congrArg Except.ok ?_)
      exact congrArg Value.string hab.render_congr
    | wholeNumber =>
      refine .of_eq .refl ?_
      rw [convert, convert, hab.wholeOfDecimal_congr]
    | decimal => exact .ok hab.decimal
    | boolean => exact .error _
    | date => exact .error _

end Value

/-- An operator on values that are alike gives values that are alike, or the same error. -/
theorem Unary.onValue_alike (h : v.Alike w) (mismatch : EvalError) (op : Unary) :
    Related Value.Alike (op.onValue mismatch v) (op.onValue mismatch w) := by
  cases h with
  | refl => exact .of_eq .refl rfl
  | @nan a b ha hb =>
    cases op with
    | negate => exact .ok (Decimal.Alike.nan ha hb).neg.decimal
    | _ => exact .of_eq .refl rfl

/-- NaN is comparable with nothing, and no other value is compared with it. -/
theorem ComparisonDomain.order?_congr (hu : u.Alike u') (hv : v.Alike v')
    (domain : ComparisonDomain) : domain.order? u v = domain.order? u' v' := by
  cases domain with
  | decimal =>
    have hu := hu.widen?
    have hv := hv.widen?
    simp only [order?]
    generalize u.widen? = x, u'.widen? = x', v.widen? = y, v'.widen? = y' at *
    cases hu with
    | none => rfl
    | some hu =>
      cases hv with
      | none => rfl
      | some hv => exact congrArg some (hu.compare?_congr hv)
  | _ =>
    cases hu with
    | refl =>
      cases hv with
      | refl => rfl
      | nan hc hd => cases u <;> rfl
    | nan ha hb => rfl

/-- A comparison cannot tell one NaN from another. -/
theorem Comparison.onValues_congr (hu : u.Alike u') (hv : v.Alike v') (mismatch : EvalError)
    (op : Comparison) (domain : Option ComparisonDomain) :
    op.onValues mismatch domain u v = op.onValues mismatch domain u' v' := by
  cases domain with
  | none => rfl
  | some domain => simp only [onValues, Option.bind_some, domain.order?_congr hu hv]

/-- Arithmetic of values that are alike gives values that are alike, or the same error. -/
theorem Arithmetic.onValues_alike (hu : u.Alike u') (hv : v.Alike v') (mismatch : EvalError)
    (op : Arithmetic) (domain : Option ArithmeticDomain) :
    Related Value.Alike (op.onValues mismatch domain u v) (op.onValues mismatch domain u' v') := by
  cases domain with
  | none => exact .error _
  | some domain =>
    cases domain with
    -- the one domain where operands may be alike without being equal
    | decimal =>
      have hu := hu.widen?
      have hv := hv.widen?
      simp only [onValues]
      generalize u.widen? = x, u'.widen? = x', v.widen? = y, v'.widen? = y' at *
      cases hu with
      | none => exact .error _
      | some hu =>
        cases hv with
        | none => exact .error _
        | some hv => exact .ok (op.onDecimals_alike hu hv).decimal
    | _ =>
      cases hu with
      | refl =>
        cases hv with
        | refl => exact .of_eq .refl rfl
        | nan hc hd => cases u <;> exact .error _
      | nan ha hb => cases hv <;> exact .error _

/-! ### Results -/

namespace Result

theorem Alike.kind_eq (h : r.Alike s) : r.kind = s.kind := by
  cases h with
  | absent k => rfl
  | present h => exact h.kind_eq

theorem Alike.isAbsent_eq (h : r.Alike s) : r.isAbsent = s.isAbsent := by
  cases h <;> rfl

/-- Results that are alike are both absent, or have values that are alike. -/
theorem Alike.value? (h : r.Alike s) : Option.Rel Value.Alike r.value? s.value? := by
  cases h with
  | absent k => exact .none
  | present h => exact .some h

/-- A text has no bits that could differ. -/
theorem Alike.text_congr (h : r.Alike s) (mismatch : EvalError) :
    r.text mismatch = s.text mismatch := by
  cases h with
  | absent k => rfl
  | present h => cases h <;> rfl

theorem Alike.place_congr (h : r.Alike s) (mismatch : EvalError) :
    r.place mismatch = s.place mismatch := by
  cases h with
  | absent k => rfl
  | present h => cases h <;> rfl

theorem Alike.condition_congr (h : r.Alike s) (mismatch : EvalError) :
    r.condition mismatch = s.condition mismatch := by
  cases h with
  | absent k => rfl
  | present h => cases h <;> rfl

/-- Results that are alike have the same kind, and so they are both taken or both refused. -/
theorem expectKind_alike (h : r.Alike s) (mismatch : EvalError) (k : Kind) :
    Related Alike (r.expectKind mismatch k) (s.expectKind mismatch k) := by
  rw [expectKind, expectKind, h.kind_eq]
  split
  · exact .ok h
  · exact .error _

end Result

/-- An operator on results that are alike, absent ones included. -/
theorem Unary.apply_alike (h : r.Alike s) (mismatch : EvalError) (k : Kind) (op : Unary) :
    Related Result.Alike (op.apply mismatch k r) (op.apply mismatch k s) := by
  cases h with
  | absent _ => exact .ok (.refl _)
  | present h => exact (onValue_alike h mismatch op).bind fun _ _ h => .ok (.present h)

end RecordExpr
