import RecordExpr.Proofs.Decimal.Truncation
import RecordExpr.Proofs.Eval.Kind

/-!
# Decimals as whole numbers

A decimal becomes the whole number that it has before the point, if there is one
(`decimal_to_whole_exact`). The conversion compares the truncated decimal with both ends of the
range as decimals. The lower end is one, the upper end is rounded up to `2^63`, so the comparison
with it is strict (`wholeOfDecimal_eq`). The saturating conversion behind it then never saturates.
-/

namespace RecordExpr

variable {env : Environment} {x : Expr} {d : Decimal} {n : WholeNumber}

namespace WholeNumber

theorem clamp_toInt (n : WholeNumber) : clamp n.toInt = n := by
  rw [clamp, ofInt?_toInt]
  rfl

theorem units_least : least.toDecimal.units = -2 ^ 63 * Decimal.one := by decide +kernel

/-- The greatest whole number is rounded up. -/
theorem units_greatest : greatest.toDecimal.units = 2 ^ 63 * Decimal.one := by decide +kernel

theorem isNaN_least : least.toDecimal.isNaN = false := by decide +kernel

theorem isNaN_greatest : greatest.toDecimal.isNaN = false := by decide +kernel

end WholeNumber

/-- The conversion returns the part before the point, if that is a whole number. -/
theorem wholeOfDecimal_eq (d : Decimal) : wholeOfDecimal d =
    orCoercionError d.renderPlain .wholeNumber
      (if d.isFinite then WholeNumber.ofInt? d.truncated else none) := by
  have hone : (0 : Int) < Decimal.one := by decide +kernel
  rw [wholeOfDecimal, d.isFinite_trunc]
  by_cases h : d.isFinite = true
  · have hnan : d.trunc.isNaN = false := Decimal.isNaN_of_isFinite (d.isFinite_trunc.trans h)
    have hlow : d.trunc.lt WholeNumber.least.toDecimal = true ↔ d.truncated < -2 ^ 63 := by
      rw [Decimal.lt_iff hnan WholeNumber.isNaN_least, d.units_trunc, WholeNumber.units_least,
        Int.mul_lt_mul_right hone]
    have hhigh : WholeNumber.greatest.toDecimal.le d.trunc = true ↔ 2 ^ 63 ≤ d.truncated := by
      rw [Decimal.le_iff WholeNumber.isNaN_greatest hnan, d.units_trunc, WholeNumber.units_greatest,
        Int.mul_le_mul_right hone]
    rw [h, WholeNumber.ofDecimal, hnan, d.truncated_trunc]
    simp only [Bool.not_true, Bool.false_or, Bool.or_eq_true, hlow, hhigh, if_true]
    -- inside the range the saturating conversion has nothing to do
    split
    · next hout => rw [WholeNumber.ofInt?_eq_none_iff.mpr hout]
    · next hin =>
      have hrange : -2 ^ 63 ≤ d.truncated ∧ d.truncated < 2 ^ 63 := by omega
      obtain ⟨n, hn⟩ := WholeNumber.exists_toInt_iff.mpr hrange
      rw [← hn, WholeNumber.clamp_toInt, WholeNumber.ofInt?_toInt]
      rfl
  · rw [Bool.not_eq_true] at h
    rw [h]
    rfl

theorem wholeOfDecimal_eq_ok_iff :
    wholeOfDecimal d = .ok n ↔ d.isFinite = true ∧ n.toInt = d.truncated := by
  rw [wholeOfDecimal_eq, ← WholeNumber.ofInt?_eq_some_iff]
  by_cases h : d.isFinite = true
  · rw [if_pos h]
    cases WholeNumber.ofInt? d.truncated <;> simp [orCoercionError, h]
  · rw [if_neg h]
    simp [orCoercionError, h]

/-- The part of a decimal before the point is a whole number. -/
structure Decimal.FitsWhole (d : Decimal) : Prop where
  finite : d.isFinite = true
  least_le : -2 ^ 63 ≤ Decimal.towardZero d.value
  le_greatest : Decimal.towardZero d.value ≤ 2 ^ 63 - 1

theorem Decimal.fitsWhole_iff :
    d.FitsWhole ↔ d.isFinite = true ∧ ∃ n : WholeNumber, n.toInt = d.truncated := by
  rw [WholeNumber.exists_toInt_iff, ← Decimal.towardZero_value]
  constructor
  · rintro ⟨hfinite, hlow, hhigh⟩
    exact ⟨hfinite, hlow, by omega⟩
  · rintro ⟨hfinite, hlow, hhigh⟩
    exact ⟨hfinite, hlow, by omega⟩

theorem wholeOfDecimal_of_not_fitsWhole (h : ¬d.FitsWhole) :
    wholeOfDecimal d = .error (.coercionFailed d.renderPlain .wholeNumber) := by
  rw [Decimal.fitsWhole_iff] at h
  rw [wholeOfDecimal_eq]
  by_cases hfinite : d.isFinite = true
  · have hnone : WholeNumber.ofInt? d.truncated = none := by
      rw [Option.eq_none_iff_forall_ne_some]
      intro n hn
      exact h ⟨hfinite, n, WholeNumber.ofInt?_eq_some_iff.mp hn⟩
    rw [if_pos hfinite, hnone]
    rfl
  · rw [if_neg hfinite]
    rfl

theorem eval_whole_of_decimal (format : Option String)
    (hx : eval env x = .ok (.present (.decimal d))) :
    eval env (.convert .wholeNumber x format) =
      wholeOfDecimal d >>= fun n => .ok (.present (.wholeNumber n)) := by
  rw [eval_convert_of_present _ _ hx]
  exact bind_assoc _ _ _

/-- A decimal becomes a whole number just if it is finite and what is left of its value without the
fraction is in the range. It becomes that number then, and otherwise the conversion fails. -/
theorem decimal_to_whole_exact (hx : eval env x = .ok (.present (.decimal d)))
    (format : Option String) :
    (∀ n, eval env (.convert .wholeNumber x format) = .ok (.present (.wholeNumber n)) ↔
      d.FitsWhole ∧ n.toInt = Decimal.towardZero d.value) ∧
    (¬d.FitsWhole → eval env (.convert .wholeNumber x format) =
      .error (.coercionFailed d.renderPlain .wholeNumber)) := by
  rw [eval_whole_of_decimal format hx]
  refine ⟨fun n => ?_, fun h => ?_⟩
  · have hresult : (wholeOfDecimal d >>= fun n => .ok (.present (.wholeNumber n))) =
        (.ok (.present (.wholeNumber n)) : Except EvalError Result) ↔ wholeOfDecimal d = .ok n := by
      cases wholeOfDecimal d <;> simp [bind, Except.bind]
    rw [hresult, wholeOfDecimal_eq_ok_iff, Decimal.fitsWhole_iff, Decimal.towardZero_value]
    constructor
    · rintro ⟨hfinite, hn⟩
      exact ⟨⟨hfinite, n, hn⟩, hn⟩
    · rintro ⟨⟨hfinite, -⟩, hn⟩
      exact ⟨hfinite, hn⟩
  · rw [wholeOfDecimal_of_not_fitsWhole h]
    rfl

/-- Both ends of the range, where the least whole number is a decimal and `2^63` comes next to the
greatest decimal below it, and minus one half, of which zero is left. -/
theorem decimal_to_whole_exact_at_ends :
    let decimal (bits : UInt64) := Expr.literal (.present (.decimal ⟨bits⟩))
    let whole (bits : UInt64) := eval .constant (.convert .wholeNumber (decimal bits) none)
    let below : WholeNumber := ⟨9223372036854774784, by decide, by decide⟩
    whole 0xC3E0000000000000 = .ok (.present (.wholeNumber .least)) ∧
    whole 0xC3E0000000000001 = .error (.coercionFailed "-9223372036854778000" .wholeNumber) ∧
    whole 0x43DFFFFFFFFFFFFF = .ok (.present (.wholeNumber below)) ∧
    whole 0x43E0000000000000 = .error (.coercionFailed "9223372036854776000" .wholeNumber) ∧
    whole 0xBFE0000000000000 = .ok (.present (.wholeNumber .zero)) ∧
    whole 0x7FF0000000000000 = .error (.coercionFailed "inf" .wholeNumber) := by
  intro decimal whole below
  have hvalue (bits : UInt64) :
    eval .constant (decimal bits) = .ok (.present (.decimal ⟨bits⟩)) := rfl
  have haccepted (bits : UInt64) (n : WholeNumber) (hfinite : Decimal.isFinite ⟨bits⟩ = true)
      (hn : n.toInt = Decimal.truncated ⟨bits⟩) : whole bits = .ok (.present (.wholeNumber n)) :=
    ((decimal_to_whole_exact (hvalue bits) none).1 n).mpr
      ⟨Decimal.fitsWhole_iff.mpr ⟨hfinite, n, hn⟩, hn.trans (Decimal.towardZero_value _).symm⟩
  have hrefused (bits : UInt64) (text : String) (htext : Decimal.renderPlain ⟨bits⟩ = text)
      (hbits : Decimal.isFinite ⟨bits⟩ = true →
        WholeNumber.ofInt? (Decimal.truncated ⟨bits⟩) = none) :
      whole bits = .error (.coercionFailed text .wholeNumber) := by
    rw [← htext]
    refine (decimal_to_whole_exact (hvalue bits) none).2 fun h => ?_
    obtain ⟨hfinite, n, hn⟩ := Decimal.fitsWhole_iff.mp h
    rw [WholeNumber.ofInt?_eq_some_iff.mpr hn] at hbits
    cases hbits hfinite
  exact ⟨haccepted _ _ (by decide +kernel) (by decide +kernel),
    hrefused _ _ (by decide +kernel) (fun _ => by decide +kernel),
    haccepted _ _ (by decide +kernel) (by decide +kernel),
    hrefused _ _ (by decide +kernel) (fun _ => by decide +kernel),
    haccepted _ _ (by decide +kernel) (by decide +kernel),
    hrefused _ _ (by decide +kernel) (fun h => absurd h (by decide +kernel))⟩

end RecordExpr
