import Mathlib.Data.Nat.ModEq
import Mathlib.Data.Rat.Floor
import RecordExpr.Proofs.Decimal.Units

/-!
# The part before the point

The value of a finite decimal is a rational number (`value`), and cutting the bits after the binary
point off leaves the integer that the value has toward zero (`units_trunc`, `towardZero_value`). The
significand of a decimal of at least one is never cut below its leading bit, so what is left belongs
to the same binade.

Decimals are in the order of their units (`lt_iff`, `le_iff`).
-/

namespace RecordExpr.Decimal

variable {a b d : Decimal} {k m n : Nat}

/-! ### Values -/

/-- The value of a finite decimal: the significand, scaled by a power of two and with its sign. -/
def value (d : Decimal) : Rat :=
  (if d.isNegative then -1 else 1) * d.significand * 2 ^ ((d.scale : Int) - 1074)

theorem cast_one_shiftLeft (k : Nat) : ((1 <<< k : Nat) : Rat) = 2 ^ (k : Int) := by
  rw [Nat.one_shiftLeft, Nat.cast_pow, zpow_natCast, Nat.cast_ofNat]

/-- A decimal is a whole number of units, of which `one` make 1. -/
theorem value_eq (d : Decimal) : d.value = d.units / (one : Nat) := by
  have hone : ((one : Nat) : Rat) = 2 ^ ((1074 : Nat) : Int) := cast_one_shiftLeft 1074
  have hscale : (2 : Rat) ^ ((d.scale : Int) - 1074) = 2 ^ d.scale / (one : Nat) := by
    rw [hone, zpow_sub₀ two_ne_zero, zpow_natCast, Nat.cast_ofNat]
  rw [value, units, unitCount, Nat.shiftLeft_eq, hscale]
  split <;> push_cast <;> ring

/-- A rational number without its fraction. -/
def towardZero (q : Rat) : Int := if 0 ≤ q then ⌊q⌋ else ⌈q⌉

theorem towardZero_div (x : Int) (hn : 0 < n) : towardZero ((x : Rat) / n) = x.tdiv n := by
  have hpos : (0 : Rat) < n := Nat.cast_pos.mpr hn
  rw [towardZero]
  split
  · next h =>
    have hx : 0 ≤ x := by
      rw [le_div_iff₀ hpos, zero_mul] at h
      exact Int.cast_nonneg_iff.mp h
    rw [Rat.floor_intCast_div_natCast, Int.tdiv_eq_ediv_of_nonneg hx]
  · next h =>
    have hx : 0 ≤ -x := by
      rw [Int.neg_nonneg, ← not_lt]
      intro hx
      exact h (div_nonneg (Int.cast_nonneg hx.le) hpos.le)
    rw [Rat.ceil_intCast_div_natCast, ← Int.tdiv_eq_ediv_of_nonneg hx, Int.neg_tdiv, Int.neg_neg]

/-- Truncating a decimal is truncating the rational number it stands for. -/
theorem towardZero_value (d : Decimal) : towardZero d.value = d.truncated := by
  rw [value_eq, towardZero_div _ (by decide +kernel), truncated]

/-! ### Cutting bits off -/

/-- Cutting off bits that stand for less than one leaves the whole ones. -/
theorem unitsOf_cut (hm : 1023 ≤ m / 2 ^ 52) (hk : k = 1075 - m / 2 ^ 52) :
    unitsOf (m / 2 ^ k * 2 ^ k) = unitsOf m / one * one := by
  obtain ⟨j, r, hj, hr, hnormal, -⟩ := exists_significand m
  have hlead : 2 ^ 52 ≤ r := by omega
  have hpos : 0 < 2 ^ j := Nat.pow_pos (by decide)
  have hdvd : 2 ^ k ∣ 2 ^ 52 := Nat.pow_dvd_pow 2 (by omega)
  have hle : r / 2 ^ k * 2 ^ k ≤ r := Nat.div_mul_le_self r _
  -- what is left has a leading bit in the same place
  have hcut : 2 ^ 52 ≤ r / 2 ^ k * 2 ^ k := by
    rw [← Nat.div_mul_cancel hdvd]
    exact Nat.mul_le_mul_right _ (Nat.div_le_div_right hlead)
  have hsame : m / 2 ^ k * 2 ^ k = j * 2 ^ 52 + r / 2 ^ k * 2 ^ k := by
    have hbinade : 2 ^ k ∣ j * 2 ^ 52 := hdvd.mul_left j
    rw [hj, Nat.add_div_of_dvd_right hbinade, Nat.add_mul, Nat.div_mul_cancel hbinade]
  rw [hsame, unitsOf_add (hle.trans hr.le) (.inr hcut), hj, unitsOf_add hr.le hnormal]
  have hone : one = 2 ^ 1074 := by decide +kernel
  by_cases hwhole : 1074 < j
  · have hzero : k = 0 := by omega
    have hunits : one ∣ r * 2 ^ j := by
      rw [hone]
      exact (pow_dvd_pow 2 hwhole.le).mul_left r
    rw [hzero, Nat.pow_zero, Nat.div_one, Nat.mul_one, Nat.div_mul_cancel hunits]
  · have hsplit : one = 2 ^ k * 2 ^ j := by
      have hsum : k + j = 1074 := by omega
      rw [← pow_add, hsum, hone]
    rw [hsplit, Nat.mul_div_mul_right r _ hpos, Nat.mul_assoc]

theorem unitsOf_div_one (hm : m / 2 ^ 52 < 1023) : unitsOf m / one = 0 := by
  have hone : one = 2 ^ 53 * 2 ^ 1021 := by decide +kernel
  have hspacing : spacing m ≤ 2 ^ 1021 := pow_le_pow_right₀ one_le_two (by omega)
  refine Nat.div_eq_of_lt ((unitsOf_lt m).trans_le ?_)
  rw [hone]
  exact Nat.mul_le_mul_left _ hspacing

/-- Truncation keeps the sign and the whole ones of the magnitude. -/
theorem exists_trunc (d : Decimal) : ∃ m ≤ d.magnitude, d.trunc = ofMagnitude d.isNegative m ∧
    unitsOf m = unitsOf d.magnitude / one * one := by
  have hshift : 1 <<< 52 = 2 ^ 52 := by decide
  rw [trunc, bitsAfterPoint, exponentField, hshift, Nat.shiftRight_eq_div_pow, Nat.shiftLeft_eq]
  split
  · next hlarge =>
    -- even the leading bit stands after the point
    refine ⟨0, Nat.zero_le _, rfl, ?_⟩
    rw [unitsOf_div_one (by omega), Nat.zero_mul]
    rfl
  · next hsmall =>
    exact ⟨_, Nat.div_mul_le_self _ _, rfl, unitsOf_cut (by omega) rfl⟩

theorem units_ofMagnitude (negative : Bool) (h : m < 2 ^ 63) :
    (ofMagnitude negative m).units = if negative then -(unitsOf m : Int) else unitsOf m := by
  rw [units, unitCount_eq, isNegative_ofMagnitude negative h, magnitude_ofMagnitude negative h]

/-- Truncation drops the units that make less than 1, whatever the sign. -/
theorem truncated_eq (d : Decimal) : d.truncated =
    if d.isNegative then -((unitsOf d.magnitude / one : Nat) : Int)
    else (unitsOf d.magnitude / one : Nat) := by
  rw [truncated, units, unitCount_eq]
  split
  · rw [Int.neg_tdiv, Int.ofNat_tdiv]
  · rw [Int.ofNat_tdiv]

/-- The truncated decimal has whole ones only. -/
theorem units_trunc (d : Decimal) : d.trunc.units = d.truncated * one := by
  obtain ⟨m, hle, htrunc, hm⟩ := d.exists_trunc
  rw [htrunc, units_ofMagnitude _ (hle.trans_lt d.magnitude_lt), hm, truncated_eq]
  split
  · rw [Int.natCast_mul, Int.neg_mul]
  · rw [Int.natCast_mul]

/-- Truncation is done once. -/
theorem truncated_trunc (d : Decimal) : d.trunc.truncated = d.truncated := by
  rw [truncated, units_trunc, Int.mul_tdiv_cancel _ (by decide +kernel)]

theorem isFinite_trunc (d : Decimal) : d.trunc.isFinite = d.isFinite := by
  by_cases h : d.isFinite = true
  · obtain ⟨m, hle, htrunc, -⟩ := d.exists_trunc
    rw [h, isFinite_iff, htrunc, magnitude_ofMagnitude _ (hle.trans_lt d.magnitude_lt)]
    exact hle.trans_lt (isFinite_iff.mp h)
  · -- infinities and NaN have the largest exponent
    have hbits : d.bitsAfterPoint = 0 := by
      rw [isFinite_iff, infiniteMagnitude, Nat.shiftLeft_eq] at h
      have hshift : 1 <<< 52 = 2 ^ 52 := by decide
      rw [bitsAfterPoint, exponentField, hshift]
      omega
    have htrunc : d.trunc = d := by
      rw [trunc, hbits]
      exact d.ofMagnitude_magnitude
    rw [htrunc]

/-! ### Order -/

theorem unitsOf_pos : 0 < unitsOf m ↔ 0 < m := by
  have hzero : unitsOf 0 = 0 := rfl
  rw [← hzero, strictMono_unitsOf.lt_iff_lt]
  rfl

/-- A larger number of units goes with a larger key. -/
theorem units_lt_units_iff : a.units < b.units ↔ a.orderKey < b.orderKey := by
  have ha : 0 < unitsOf a.magnitude ↔ 0 < a.magnitude := unitsOf_pos
  have hb : 0 < unitsOf b.magnitude ↔ 0 < b.magnitude := unitsOf_pos
  have hab : unitsOf a.magnitude < unitsOf b.magnitude ↔ a.magnitude < b.magnitude :=
    strictMono_unitsOf.lt_iff_lt
  have hba : unitsOf b.magnitude < unitsOf a.magnitude ↔ b.magnitude < a.magnitude :=
    strictMono_unitsOf.lt_iff_lt
  simp only [units, orderKey, unitCount_eq]
  split <;> split <;> omega

/-- Numbers are ordered as their units are. -/
theorem lt_iff (ha : a.isNaN = false) (hb : b.isNaN = false) :
    a.lt b = true ↔ a.units < b.units := by
  rw [units_lt_units_iff, lt, compare?, ha, hb, Bool.or_self, if_neg Bool.false_ne_true, beq_iff_eq,
    Option.some_inj, compare_lt_iff_lt]

theorem le_iff (ha : a.isNaN = false) (hb : b.isNaN = false) :
    a.le b = true ↔ a.units ≤ b.units := by
  rw [← not_lt, units_lt_units_iff, not_lt, le, compare?, ha, hb, Bool.or_self,
    if_neg Bool.false_ne_true, Bool.or_eq_true, beq_iff_eq, beq_iff_eq, Option.some_inj,
    Option.some_inj, compare_lt_iff_lt, compare_eq_iff_eq, le_iff_lt_or_eq]

end RecordExpr.Decimal
