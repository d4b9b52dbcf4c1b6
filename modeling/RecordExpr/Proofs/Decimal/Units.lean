import Mathlib.Tactic.Linarith
import Mathlib.Tactic.Ring
import Mathlib.Data.Rat.Cast.Order
import RecordExpr.Decimal.Rounding

/-!
# Decimals as points of a grid

The magnitudes number the finite decimals of one sign from zero on, and `unitsOf m` is the number of
units in the `m`-th of them. It grows with the magnitude (`strictMono_unitsOf`), by a power of two
that doubles from one binade to the next (`unitsOf_succ`). Two consecutive binades carry into each
other, so that a significand may stand one beyond its binade (`unitsOf_add`).
-/

namespace RecordExpr.Decimal

variable {d : Decimal} {m n k r : Nat}

/-! ### The parts of the bit pattern -/

theorem magnitude_lt (d : Decimal) : d.magnitude < 2 ^ 63 := Nat.mod_lt _ (by decide)

/-- A decimal is a sign and a magnitude. -/
theorem bits_eq (d : Decimal) :
    d.bits.toNat = (if d.isNegative then 2 ^ 63 else 0) + d.magnitude := by
  have hlt : d.bits.toNat < 2 ^ 64 := d.bits.toNat_lt
  have hshift : 1 <<< 63 = 2 ^ 63 := by decide
  simp only [isNegative, magnitude, hshift, decide_eq_true_eq]
  split <;> omega

theorem toNat_bits_ofMagnitude (negative : Bool) (h : m < 2 ^ 63) :
    (ofMagnitude negative m).bits.toNat = (if negative then 2 ^ 63 else 0) + m := by
  have hshift : 1 <<< 63 = 2 ^ 63 := by decide
  rw [ofMagnitude, hshift]
  refine UInt64.toNat_ofNat_of_lt' ?_
  show _ < 2 ^ 64
  split <;> omega

theorem magnitude_ofMagnitude (negative : Bool) (h : m < 2 ^ 63) :
    (ofMagnitude negative m).magnitude = m := by
  rw [magnitude, toNat_bits_ofMagnitude negative h]
  show _ % 2 ^ 63 = m
  split <;> omega

theorem isNegative_ofMagnitude (negative : Bool) (h : m < 2 ^ 63) :
    (ofMagnitude negative m).isNegative = negative := by
  have hshift : 1 <<< 63 = 2 ^ 63 := by decide
  rw [isNegative, toNat_bits_ofMagnitude negative h, hshift]
  cases negative
  · simpa using h
  · simp

/-- A decimal is its sign and its magnitude. -/
theorem ofMagnitude_magnitude (d : Decimal) : ofMagnitude d.isNegative d.magnitude = d := by
  have hbits := toNat_bits_ofMagnitude d.isNegative d.magnitude_lt
  rw [← bits_eq] at hbits
  cases d
  exact congrArg Decimal.mk (UInt64.toNat_inj.mp hbits)

/-- Finite decimals are below infinity in magnitude, and those above it are NaN. -/
theorem isFinite_iff : d.isFinite = true ↔ d.magnitude < infiniteMagnitude := decide_eq_true_iff

theorem isNaN_iff : d.isNaN = true ↔ infiniteMagnitude < d.magnitude := decide_eq_true_iff

theorem isNaN_of_isFinite (h : d.isFinite = true) : d.isNaN = false := by
  rw [isFinite_iff] at h
  rw [← Bool.not_eq_true, isNaN_iff]
  exact h.not_gt

theorem isFinite_of_isNaN (h : d.isNaN = true) : d.isFinite = false := by
  rw [← Bool.not_eq_true]
  intro hfinite
  rw [isNaN_of_isFinite hfinite] at h
  cases h

/-! ### The grid -/

/-- The distance from one magnitude to the next, in units. -/
def spacing (m : Nat) : Nat := 2 ^ (m / 2 ^ 52 - 1)

/-- Units in the decimal with a magnitude. -/
def unitsOf (m : Nat) : Nat := (if m / 2 ^ 52 = 0 then m else 2 ^ 52 + m % 2 ^ 52) * spacing m

/-- The number of units depends on the magnitude alone. -/
theorem unitCount_eq (d : Decimal) : d.unitCount = unitsOf d.magnitude := by
  have hshift : 1 <<< 52 = 2 ^ 52 := by decide
  rw [unitCount, Nat.shiftLeft_eq, scale, significand, exponentField, fraction, hshift, unitsOf,
    spacing]
  split
  · next h => rw [Nat.mod_eq_of_lt (by omega)]
  · rfl

theorem spacing_pos (m : Nat) : 0 < spacing m := Nat.pow_pos (by decide)

theorem spacing_mono (h : m ≤ n) : spacing m ≤ spacing n :=
  Nat.pow_le_pow_right (by decide) (Nat.sub_le_sub_right (Nat.div_le_div_right h) 1)

/-- A significand stands for as many times the spacing, up to the beginning of the next binade. -/
theorem unitsOf_add (hr : r ≤ 2 ^ 53) (hk : k = 0 ∨ 2 ^ 52 ≤ r) :
    unitsOf (k * 2 ^ 52 + r) = r * 2 ^ k := by
  rw [unitsOf, spacing]
  by_cases hnext : r = 2 ^ 53
  · have hdiv : (k * 2 ^ 52 + r) / 2 ^ 52 = k + 2 := by omega
    have hmod : (k * 2 ^ 52 + r) % 2 ^ 52 = 0 := by omega
    rw [hdiv, hmod, if_neg (by omega), Nat.add_sub_cancel (n := k + 1) (m := 1), hnext,
      Nat.pow_succ]
    omega
  by_cases hnormal : 2 ^ 52 ≤ r
  · have hdiv : (k * 2 ^ 52 + r) / 2 ^ 52 = k + 1 := by omega
    have hmod : 2 ^ 52 + (k * 2 ^ 52 + r) % 2 ^ 52 = r := by omega
    rw [hdiv, hmod, if_neg (by omega), Nat.add_sub_cancel]
  · have hzero : k = 0 := hk.resolve_right hnormal
    subst hzero
    have hdiv : (0 * 2 ^ 52 + r) / 2 ^ 52 = 0 := by omega
    rw [hdiv, if_pos rfl, Nat.zero_mul, Nat.zero_add]

/-- Every magnitude is a binade and a significand in it. -/
theorem exists_significand (m : Nat) : ∃ k r, m = k * 2 ^ 52 + r ∧ r < 2 ^ 53 ∧
    (k = 0 ∨ 2 ^ 52 ≤ r) ∧ spacing m = 2 ^ k := by
  by_cases h : m < 2 ^ 52
  · refine ⟨0, m, by omega, by omega, .inl rfl, ?_⟩
    rw [spacing, Nat.div_eq_of_lt h]
  · refine ⟨m / 2 ^ 52 - 1, 2 ^ 52 + m % 2 ^ 52, by omega, by omega, .inr (by omega), rfl⟩

/-- The next magnitude is one space away. -/
theorem unitsOf_succ (m : Nat) : unitsOf (m + 1) = unitsOf m + spacing m := by
  obtain ⟨k, r, rfl, hr, hk, hspacing⟩ := exists_significand m
  have hnext : unitsOf (k * 2 ^ 52 + (r + 1)) = (r + 1) * 2 ^ k :=
    unitsOf_add (by omega) (hk.imp_right (by omega))
  rw [hspacing, unitsOf_add hr.le hk, Nat.add_assoc, hnext, Nat.add_mul, Nat.one_mul]

/-- So magnitudes are ordered like the numbers they stand for. -/
theorem strictMono_unitsOf : StrictMono unitsOf := by
  refine strictMono_nat_of_lt_succ fun m => ?_
  rw [unitsOf_succ]
  exact Nat.lt_add_of_pos_right (spacing_pos m)

/-- A number has at most 53 bits, counted in spaces of its magnitude. -/
theorem unitsOf_lt (m : Nat) : unitsOf m < 2 ^ 53 * spacing m := by
  obtain ⟨k, r, rfl, hr, hk, hspacing⟩ := exists_significand m
  rw [hspacing, unitsOf_add hr.le hk]
  exact Nat.mul_lt_mul_of_pos_right hr (Nat.pow_pos (by decide))

end RecordExpr.Decimal
