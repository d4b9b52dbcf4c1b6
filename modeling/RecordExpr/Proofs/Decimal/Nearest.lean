import Mathlib.Data.Nat.Cast.Order.Field
import Mathlib.Tactic.FieldSimp
import Mathlib.Tactic.Positivity
import RecordExpr.Proofs.Decimal.Units

/-!
# The nearest decimal

A magnitude is nearest to a number of units if the number lies between the midpoints to both
neighbours, where a midpoint belongs to the even magnitude (`Nearest`). Every number has at most one
such magnitude (`Nearest.unique`), and rounding finds it (`roundsTo_roundHalfEven`), so the
magnitude that rounding returns is the one that is nearest (`nearestMagnitude_eq`).

The significand is rounded on the grid of its own binade. That is finer below the first number of
the binade and coarser above the last one, which the proof has to look at; the number itself is not
below its binade.
-/

namespace RecordExpr.Decimal

variable {d k m n r : Nat} {v : Rat}

/-- No other magnitude is nearer to `v` units, and in a tie this one is even. -/
structure Nearest (m : Nat) (v : Rat) : Prop where
  lower : (unitsOf (m - 1) : Rat) + unitsOf m ≤ 2 * v
  upper : 2 * v ≤ unitsOf m + unitsOf (m + 1)
  tie : 2 * v = unitsOf (m - 1) + unitsOf m ∨ 2 * v = unitsOf m + unitsOf (m + 1) → m % 2 = 0

theorem Nearest.le (hm : Nearest m v) (hn : Nearest n v) : m ≤ n := by
  by_contra h
  have hlow : (unitsOf n : Rat) ≤ unitsOf (m - 1) :=
    Nat.cast_le.mpr (strictMono_unitsOf.monotone (by omega))
  have hhigh : (unitsOf (n + 1) : Rat) ≤ unitsOf m :=
    Nat.cast_le.mpr (strictMono_unitsOf.monotone (by omega))
  -- the midpoint above `n` and the one below `m` can only be the same
  have hlower := hm.lower
  have hupper := hn.upper
  have hnext : unitsOf (n + 1) = unitsOf m := Nat.cast_injective (R := Rat) (by linarith)
  have hsucc : n + 1 = m := strictMono_unitsOf.injective hnext
  have hmeven : m % 2 = 0 := hm.tie (.inl (by linarith))
  have hneven : n % 2 = 0 := hn.tie (.inr (by linarith))
  omega

/-- No two magnitudes are nearest to the same number. -/
theorem Nearest.unique (hm : Nearest m v) (hn : Nearest n v) : m = n :=
  Nat.le_antisymm (hm.le hn) (hn.le hm)

/-- Less than half a unit is nearest to zero. -/
theorem nearest_zero (hlower : 0 ≤ v) (hupper : 2 * v ≤ 1) : Nearest 0 v := by
  have hzero : unitsOf 0 = 0 := rfl
  have hone : unitsOf 1 = 1 := rfl
  refine ⟨?_, ?_, fun _ => rfl⟩
  · rw [Nat.zero_sub, hzero]
    simpa using hlower
  · rw [hzero, Nat.zero_add, hone]
    simpa using hupper

/-! ### Rounding to an integer -/

/-- Rounding goes up by one at most. -/
theorem roundHalfEven_bounds (n d : Nat) :
    n / d ≤ roundHalfEven n d ∧ roundHalfEven n d ≤ n / d + 1 := by
  unfold roundHalfEven
  dsimp only
  split
  · omega
  · split <;> omega

/-- The integer is at most a half away, and even if it is just a half. -/
theorem roundHalfEven_nearest (n : Nat) (hd : 0 < d) :
    2 * roundHalfEven n d * d ≤ 2 * n + d ∧ 2 * n ≤ (2 * roundHalfEven n d + 1) * d ∧
      (2 * n + d = 2 * roundHalfEven n d * d ∨ 2 * n = (2 * roundHalfEven n d + 1) * d →
        roundHalfEven n d % 2 = 0) := by
  have hsplit : n / d * d + n % d = n := Nat.div_add_mod' n d
  have hlt : n % d < d := Nat.mod_lt n hd
  unfold roundHalfEven
  dsimp only
  generalize n / d = q at *
  generalize n % d = t at *
  have hodd : (2 * q + 1) * d = 2 * (q * d) + d := by ring
  have heven : 2 * q * d = 2 * (q * d) := by ring
  have hnext : 2 * (q + 1) * d = 2 * (q * d) + 2 * d := by ring
  have hbeyond : (2 * (q + 1) + 1) * d = 2 * (q * d) + 3 * d := by ring
  split
  · refine ⟨by omega, by omega, by omega⟩
  · split
    · refine ⟨by omega, by omega, by omega⟩
    · -- a tie goes up from an odd number
      rcases Nat.mod_two_eq_zero_or_one q with hq | hq
      · rw [hq, Nat.add_zero]
        exact ⟨by omega, by omega, fun _ => hq⟩
      · rw [hq]
        exact ⟨by omega, by omega, by omega⟩

/-! ### Rounding to a significand -/

/-- A significand within its binade, and a number that is rounded to it. -/
structure RoundsTo (r k : Nat) (v : Rat) : Prop where
  le : r ≤ 2 ^ 53
  within : k = 0 ∨ 2 ^ 52 ≤ r
  /-- the number is not below the binade -/
  above : k = 0 ∨ 2 ^ 52 * 2 ^ k ≤ v
  nonneg : 0 ≤ v
  lower : (2 * r - 1) * 2 ^ k ≤ 2 * v
  upper : 2 * v ≤ (2 * r + 1) * 2 ^ k
  tie : 2 * v = (2 * r - 1) * 2 ^ k ∨ 2 * v = (2 * r + 1) * 2 ^ k → r % 2 = 0

theorem RoundsTo.unitsOf_eq (h : RoundsTo r k v) : unitsOf (k * 2 ^ 52 + r) = r * 2 ^ k :=
  unitsOf_add h.le h.within

/-- The next number is at least one step of the grid away. -/
theorem RoundsTo.le_midpoint_above (h : RoundsTo r k v) :
    2 * v ≤ unitsOf (k * 2 ^ 52 + r) + unitsOf (k * 2 ^ 52 + r + 1) ∧
      (2 * v = unitsOf (k * 2 ^ 52 + r) + unitsOf (k * 2 ^ 52 + r + 1) → r % 2 = 0) := by
  have hupper := h.upper
  have hstep : 2 ^ k ≤ spacing (k * 2 ^ 52 + r) := by
    refine Nat.pow_le_pow_right (by decide) ?_
    rcases h.within with hk | hr <;> omega
  have hnext : ((r : Rat) + 1) * 2 ^ k ≤ unitsOf (k * 2 ^ 52 + r + 1) := by
    have hstep' : ((2 ^ k : Nat) : Rat) ≤ spacing (k * 2 ^ 52 + r) := Nat.cast_le.mpr hstep
    rw [unitsOf_succ, h.unitsOf_eq]
    push_cast at hstep' ⊢
    linarith
  rw [h.unitsOf_eq]
  generalize unitsOf (k * 2 ^ 52 + r + 1) = next at *
  push_cast
  refine ⟨by linarith, fun htie => h.tie (.inr ?_)⟩
  linarith

/-- The number is not below the middle between its rounding and what comes before, and is there only
for even ones. -/
theorem RoundsTo.midpoint_below_le (h : RoundsTo r k v) :
    (unitsOf (k * 2 ^ 52 + r - 1) : Rat) + unitsOf (k * 2 ^ 52 + r) ≤ 2 * v ∧
      (2 * v = unitsOf (k * 2 ^ 52 + r - 1) + unitsOf (k * 2 ^ 52 + r) → r % 2 = 0) := by
  have hlower := h.lower
  have hunits := h.unitsOf_eq
  by_cases hzero : r = 0
  · have hk : k = 0 := h.within.resolve_right (by omega)
    -- there is nothing below zero
    have hnone : unitsOf 0 = 0 := rfl
    have hnonneg := h.nonneg
    rw [hzero, hk, Nat.zero_mul, Nat.zero_add, Nat.zero_sub, hnone]
    exact ⟨by simpa using hnonneg, fun _ => rfl⟩
  by_cases hfirst : k ≠ 0 ∧ r = 2 ^ 52
  · -- the grid is finer below, but the number is not there
    obtain ⟨hk, hr⟩ := hfirst
    have hge : 2 ^ 52 * 2 ^ k ≤ v := h.above.resolve_left hk
    have hprev : (unitsOf (k * 2 ^ 52 + r - 1) : Rat) < unitsOf (k * 2 ^ 52 + r) :=
      Nat.cast_lt.mpr (strictMono_unitsOf (by omega))
    rw [hunits, hr] at hprev ⊢
    push_cast at hprev ⊢
    exact ⟨by linarith, fun htie => by linarith⟩
  · -- within the grid, the numbers around are multiples of its spacing
    have hprev : unitsOf (k * 2 ^ 52 + r - 1) = (r - 1) * 2 ^ k := by
      have hsub : k * 2 ^ 52 + r - 1 = k * 2 ^ 52 + (r - 1) := by omega
      have hle := h.le
      have hwithin := h.within
      rw [hsub]
      exact unitsOf_add (by omega) (by omega)
    have hone : 1 ≤ r := by omega
    rw [hprev, hunits]
    push_cast [Nat.cast_sub hone]
    refine ⟨by linarith, fun htie => h.tie (.inl ?_)⟩
    linarith

/-- What is rounded to half even in its own spacing is nearest among all magnitudes. -/
theorem RoundsTo.nearest (h : RoundsTo r k v) : Nearest (k * 2 ^ 52 + r) v := by
  have hparity : (k * 2 ^ 52 + r) % 2 = r % 2 := by omega
  refine ⟨h.midpoint_below_le.1, h.le_midpoint_above.1, ?_⟩
  rw [hparity]
  exact fun htie => htie.elim h.midpoint_below_le.2 h.le_midpoint_above.2

/-- Dropping the excess bits leaves a significand. -/
theorem div_excessBits (n d : Nat) : n / d / 2 ^ excessBits n d < 2 ^ 53 ∧
    (excessBits n d = 0 ∨ 2 ^ 52 ≤ n / d / 2 ^ excessBits n d) := by
  unfold excessBits
  generalize n / d = q
  have hpow : 0 < 2 ^ (q.log2 - 52) := Nat.pow_pos (by decide)
  constructor
  · rw [Nat.div_lt_iff_lt_mul hpow, ← Nat.pow_add]
    have hlt : q < 2 ^ (q.log2 + 1) := Nat.lt_log2_self
    exact Nat.lt_of_lt_of_le hlt (Nat.pow_le_pow_right (by decide) (by omega))
  · by_cases hsmall : q.log2 - 52 = 0
    · exact .inl hsmall
    · have hne : q ≠ 0 := by
        rintro rfl
        exact hsmall (by decide)
      have hle : 2 ^ q.log2 ≤ q := Nat.log2_self_le hne
      refine .inr ?_
      rw [Nat.le_div_iff_mul_le hpow, ← Nat.pow_add]
      exact Nat.le_trans (Nat.pow_le_pow_right (by decide) (by omega)) hle

/-- The significand that rounding finds. -/
theorem roundsTo_roundHalfEven (n : Nat) (hd : 0 < d) :
    RoundsTo (roundHalfEven n (d <<< excessBits n d)) (excessBits n d) (n / d) := by
  obtain ⟨hbelow, habove⟩ := div_excessBits n d
  rw [Nat.shiftLeft_eq]
  generalize excessBits n d = k at *
  have hunit : 0 < d * 2 ^ k := Nat.mul_pos hd (Nat.pow_pos (by decide))
  obtain ⟨hge, hle⟩ := roundHalfEven_bounds n (d * 2 ^ k)
  rw [← Nat.div_div_eq_div_mul] at hge hle
  obtain ⟨hlow, hhigh, htie⟩ := roundHalfEven_nearest n hunit
  generalize roundHalfEven n (d * 2 ^ k) = r at *
  have hd' : (0 : Rat) < d := Nat.cast_pos.mpr hd
  -- what remains are the bounds of the rounding, moved from natural to rational numbers
  have hv : 2 * ((n : Rat) / d) = 2 * n / d := by ring
  refine ⟨by omega, by omega, ?_, by positivity, ?_, ?_, ?_⟩
  · refine habove.imp_right fun h => ?_
    have hmul : 2 ^ 52 * 2 ^ k ≤ n / d := (Nat.le_div_iff_mul_le (Nat.pow_pos (by decide))).mp h
    have hcast : ((2 ^ 52 * 2 ^ k : Nat) : Rat) ≤ (n / d : Nat) := Nat.cast_le.mpr hmul
    push_cast at hcast
    exact hcast.trans Nat.cast_div_le
  · have hcast : ((2 * r * (d * 2 ^ k) : Nat) : Rat) ≤ (2 * n + d * 2 ^ k : Nat) :=
      Nat.cast_le.mpr hlow
    push_cast at hcast
    rw [hv, le_div_iff₀ hd']
    linarith
  · have hcast : ((2 * n : Nat) : Rat) ≤ ((2 * r + 1) * (d * 2 ^ k) : Nat) :=
      Nat.cast_le.mpr hhigh
    push_cast at hcast
    rw [hv, div_le_iff₀ hd']
    linarith
  · rw [hv, div_eq_iff hd'.ne', div_eq_iff hd'.ne']
    intro h
    refine htie (h.imp (fun h => ?_) fun h => ?_)
    · have hcast : ((2 * n + d * 2 ^ k : Nat) : Rat) = (2 * r * (d * 2 ^ k) : Nat) := by
        push_cast
        linarith
      exact Nat.cast_injective hcast
    · have hcast : ((2 * n : Nat) : Rat) = ((2 * r + 1) * (d * 2 ^ k) : Nat) := by
        push_cast
        linarith
      exact Nat.cast_injective hcast

/-! ### Rounding to a magnitude -/

/-- Rounding finds the nearest magnitude where none is too large to be finite. -/
theorem nearestMagnitude_eq (hd : 0 < d) (h : Nearest m (n / d)) (hm : m ≤ infiniteMagnitude) :
    nearestMagnitude n d = m := by
  have hfound :
      Nearest ((excessBits n d <<< 52) + roundHalfEven n (d <<< excessBits n d)) (n / d) := by
    rw [Nat.shiftLeft_eq (excessBits n d)]
    exact (roundsTo_roundHalfEven n hd).nearest
  rw [nearestMagnitude, hfound.unique h]
  exact Nat.min_eq_right hm

end RecordExpr.Decimal
