import RecordExpr.Decimal.Shortest
import RecordExpr.Proofs.Decimal.Nearest
import RecordExpr.Proofs.Text.Digits

/-!
# The shortest digits are near enough

The digits that a positive decimal is printed with stand for a number to which the decimal is
nearest (`exists_shortest`). Any digits that are taken at all are: they are tested against the
midpoints (`nearest_of_contains`). What has to be shown is that seventeen digits are always found
(`isSome_candidate?`). With so many, neighbours among the numbers that can be written are closer
than the midpoint below the decimal is, since a significand is less than ten to the sixteenth.
-/

namespace RecordExpr.Decimal

open Text

variable {d : Decimal} {a b c n : Nat} {p : Int} {i : RoundingInterval}

/-! ### The midpoints -/

theorem roundingInterval_eq (hd : 0 < d.magnitude) :
    d.roundingInterval =
      { low := 2 * (unitsOf (d.magnitude - 1) + unitsOf d.magnitude)
        value := 4 * unitsOf d.magnitude
        high := 2 * (unitsOf d.magnitude + unitsOf (d.magnitude + 1))
        closed := d.magnitude % 2 = 0 } := by
  have hshift : 1 <<< 52 = 2 ^ 52 := by decide
  have hgap : 2 <<< d.scale = 2 * spacing d.magnitude := by
    rw [Nat.shiftLeft_eq, scale, exponentField, hshift, spacing]
  have hbelow : (if d.fraction = 0 ∧ 1 < d.exponentField then 2 * spacing d.magnitude / 2
      else 2 * spacing d.magnitude) = 2 * spacing (d.magnitude - 1) := by
    rw [fraction, exponentField, hshift, spacing, spacing]
    split
    · next h =>
      -- the first number of a binade
      have hexp : d.magnitude / 2 ^ 52 - 1 = (d.magnitude - 1) / 2 ^ 52 - 1 + 1 := by omega
      rw [hexp, Nat.pow_succ]
      omega
    · next h =>
      have hexp : d.magnitude / 2 ^ 52 - 1 = (d.magnitude - 1) / 2 ^ 52 - 1 := by omega
      rw [hexp]
  have hprev : unitsOf d.magnitude = unitsOf (d.magnitude - 1) + spacing (d.magnitude - 1) := by
    have h := unitsOf_succ (d.magnitude - 1)
    rwa [Nat.sub_add_cancel hd] at h
  have hparity : d.fraction % 2 = d.magnitude % 2 := by
    rw [fraction, hshift]
    omega
  rw [roundingInterval, hgap, hbelow, unitCount_eq, unitsOf_succ, hparity]
  congr 1 <;> omega

/-- A number in the rounding interval has the decimal as its nearest. -/
theorem nearest_of_contains (hd : 0 < d.magnitude) (hb : 0 < b)
    (h : d.roundingInterval.contains a b = true) : Nearest d.magnitude (a / (4 * b)) := by
  rw [roundingInterval_eq hd, RoundingInterval.contains] at h
  dsimp only at h
  have hb' : (0 : Rat) < 2 * b := by positivity
  have hv : 2 * ((a : Rat) / (4 * b)) = a / (2 * b) := by ring
  split at h
  · -- an even significand takes the ends of the interval, an odd one does not
    next heven =>
    simp only [Bool.and_eq_true, decide_eq_true_eq] at h
    have hlow : ((2 * (unitsOf (d.magnitude - 1) + unitsOf d.magnitude) * b : Nat) : Rat) ≤ a :=
      Nat.cast_le.mpr h.1
    have hhigh : (a : Rat) ≤ (2 * (unitsOf d.magnitude + unitsOf (d.magnitude + 1)) * b : Nat) :=
      Nat.cast_le.mpr h.2
    push_cast at hlow hhigh
    refine ⟨?_, ?_, fun _ => of_decide_eq_true heven⟩
    · rw [hv, le_div_iff₀ hb']
      linarith
    · rw [hv, div_le_iff₀ hb']
      linarith
  · simp only [Bool.and_eq_true, decide_eq_true_eq] at h
    have hlow : ((2 * (unitsOf (d.magnitude - 1) + unitsOf d.magnitude) * b : Nat) : Rat) < a :=
      Nat.cast_lt.mpr h.1
    have hhigh : (a : Rat) < (2 * (unitsOf d.magnitude + unitsOf (d.magnitude + 1)) * b : Nat) :=
      Nat.cast_lt.mpr h.2
    push_cast at hlow hhigh
    have hlower : (unitsOf (d.magnitude - 1) : Rat) + unitsOf d.magnitude < a / (2 * b) := by
      rw [lt_div_iff₀ hb']
      linarith
    have hupper : (a : Rat) / (2 * b) < unitsOf d.magnitude + unitsOf (d.magnitude + 1) := by
      rw [div_lt_iff₀ hb']
      linarith
    rw [← hv] at hlower hupper
    exact ⟨hlower.le, hupper.le, fun htie => htie.elim (fun h => absurd h hlower.ne')
      fun h => absurd h hupper.ne⟩

/-! ### Candidates -/

theorem contains_of_lt (hlow : i.low * b < a) (hhigh : a < i.high * b) : i.contains a b = true := by
  rw [RoundingInterval.contains]
  split
  · simp [hlow.le, hhigh.le]
  · simp [hlow, hhigh]

/-- A candidate is a number of the interval. -/
theorem contains_of_candidate? (h : candidate? i p = some c) :
    i.contains (c * (quartersInOne * 10 ^ p.toNat)) (10 ^ (-p).toNat) = true := by
  unfold candidate? at h
  dsimp only [Nat.pow_eq] at h
  split at h
  · next hdown hup =>
    cases h
    split
    · exact hup
    · exact hdown
  · next hdown _ =>
    cases h
    exact hdown
  · next hup =>
    cases h
    exact hup
  · cases h

/-- A candidate is found if the interval reaches further on both sides than half a step. -/
theorem isSome_candidate? (hn : n = quartersInOne * 10 ^ p.toNat) (hb : b = 10 ^ (-p).toNat)
    (hlow : n + 2 * (i.low * b) < 2 * (i.value * b))
    (hhigh : n + 2 * (i.value * b) < 2 * (i.high * b)) : (candidate? i p).isSome = true := by
  have hpos : 0 < n := by
    rw [hn]
    exact Nat.mul_pos (by decide) (Nat.pow_pos (by decide))
  have hsplit : i.value * b / n * n + i.value * b % n = i.value * b := Nat.div_add_mod' _ _
  have hlt : i.value * b % n < n := Nat.mod_lt _ hpos
  have hnext : (i.value * b / n + 1) * n = i.value * b / n * n + n := Nat.succ_mul _ _
  -- one of the multiples on both sides is at most half a step away
  have hsome : i.contains (i.value * b / n * n) b = true ∨
      i.contains ((i.value * b / n + 1) * n) b = true := by
    by_cases hdown : 2 * (i.value * b % n) < n
    · exact .inl (contains_of_lt (by omega) (by omega))
    · exact .inr (contains_of_lt (by omega) (by omega))
  unfold candidate?
  dsimp only [Nat.pow_eq]
  rw [← hn, ← hb]
  rcases hsome with h | h <;> rw [h] <;> split <;> simp_all

/-! ### Enough digits -/

theorem ten_zpow_mul (p : Int) : (10 : Rat) ^ p * 10 ^ (-p).toNat = 10 ^ p.toNat := by
  have hten : (10 : Rat) ≠ 0 := by norm_num
  rw [← zpow_natCast, ← zpow_natCast, ← zpow_add₀ hten]
  congr 1
  omega

/-- The leading place is not too high. -/
theorem ten_zpow_leadingPlace_le {v : Nat} (hv : 0 < v) :
    (quartersInOne : Rat) * 10 ^ (leadingPlace v - 1) ≤ v := by
  have hone : 0 < quartersInOne := by decide
  unfold leadingPlace
  split
  · next h =>
    have hdiv : 0 < v / quartersInOne := Nat.div_pos h hone
    have hlen : 0 < (natDigits (v / quartersInOne)).length := Nat.length_toDigits_pos
    have hle : 10 ^ ((natDigits (v / quartersInOne)).length - 1) ≤ v / quartersInOne :=
      pow_length_natDigits_le hdiv
    rw [Nat.le_div_iff_mul_le hone] at hle
    have hcast := Nat.cast_le (α := Rat).mpr hle
    have hexp : ((natDigits (v / quartersInOne)).length : Int) - 1 =
        ((natDigits (v / quartersInOne)).length - 1 : Nat) := by omega
    rw [hexp, zpow_natCast]
    push_cast at hcast
    linarith
  · next h =>
    -- a fraction of one: count the digits of its reciprocal
    have hlt : (quartersInOne - 1) / v < 10 ^ (natDigits ((quartersInOne - 1) / v)).length :=
      lt_pow_length_natDigits _
    generalize (natDigits ((quartersInOne - 1) / v)).length = k at *
    rw [Nat.div_lt_iff_lt_mul hv] at hlt
    have hle : quartersInOne ≤ 10 ^ k * v := by omega
    have hcast := Nat.cast_le (α := Rat).mpr hle
    have hexp : (1 : Int) - k - 1 = -(k : Int) := by omega
    have hpos : (0 : Rat) < 10 ^ k := by positivity
    rw [hexp, zpow_neg, zpow_natCast, ← div_eq_mul_inv, div_le_iff₀ hpos]
    push_cast at hcast
    linarith

/-- A step in the seventeenth place is less than the value by sixteen places. -/
theorem step_mul_le {v : Nat} (hv : 0 < v) (hp : leadingPlace v - 17 = p) :
    quartersInOne * 10 ^ p.toNat * 10 ^ 16 ≤ v * 10 ^ (-p).toNat := by
  have hplace := ten_zpow_leadingPlace_le hv
  have hexp : leadingPlace v - 1 = p + (16 : Nat) := by omega
  rw [hexp, zpow_add₀ (by norm_num), zpow_natCast] at hplace
  have hscale : (0 : Rat) ≤ 10 ^ (-p).toNat := by positivity
  have hscaled := mul_le_mul_of_nonneg_right hplace hscale
  have hleft : (quartersInOne : Rat) * (10 ^ p * 10 ^ 16) * 10 ^ (-p).toNat =
      quartersInOne * (10 ^ p * 10 ^ (-p).toNat) * 10 ^ 16 := by ring
  rw [hleft, ten_zpow_mul p] at hscaled
  exact_mod_cast hscaled

/-- A step in the seventeenth place is less than twice the way to the midpoint below, since a
significand is less than ten to the sixteenth. -/
theorem step_lt {m : Nat} (hp : leadingPlace (4 * unitsOf (m + 1)) - 17 = p) :
    quartersInOne * 10 ^ p.toNat < 4 * (spacing m * 10 ^ (-p).toNat) := by
  have hunits : unitsOf (m + 1) = unitsOf m + spacing m := unitsOf_succ m
  have hsignificand : unitsOf m < 2 ^ 53 * spacing m := unitsOf_lt m
  have hpos : 0 < spacing m := spacing_pos m
  have hvalue : unitsOf (m + 1) < 10 ^ 16 * spacing m := by omega
  have hscaled : unitsOf (m + 1) * 10 ^ (-p).toNat < 10 ^ 16 * spacing m * 10 ^ (-p).toNat :=
    Nat.mul_lt_mul_of_pos_right hvalue (Nat.pow_pos (by decide))
  refine Nat.lt_of_mul_lt_mul_right (a := 10 ^ 16) ?_
  calc quartersInOne * 10 ^ p.toNat * 10 ^ 16
      ≤ 4 * unitsOf (m + 1) * 10 ^ (-p).toNat := step_mul_le (by omega) hp
    _ = 4 * (unitsOf (m + 1) * 10 ^ (-p).toNat) := Nat.mul_assoc _ _ _
    _ < 4 * (10 ^ 16 * spacing m * 10 ^ (-p).toNat) :=
      Nat.mul_lt_mul_of_pos_left hscaled (by decide)
    _ = 4 * (spacing m * 10 ^ (-p).toNat) * 10 ^ 16 := by ring

/-- Neighbours among the numbers of seventeen digits are close enough. -/
theorem isSome_candidate?_seventeen (hd : 0 < d.magnitude) :
    (candidate? d.roundingInterval (leadingPlace (4 * unitsOf d.magnitude) - 17)).isSome := by
  generalize hp : leadingPlace (4 * unitsOf d.magnitude) - 17 = p
  obtain ⟨m, hm⟩ : ∃ m, d.magnitude = m + 1 := ⟨d.magnitude - 1, by omega⟩
  rw [roundingInterval_eq hd]
  rw [hm] at hp ⊢
  have hunits : unitsOf (m + 1) = unitsOf m + spacing m := unitsOf_succ m
  have hnext : unitsOf (m + 1 + 1) = unitsOf (m + 1) + spacing (m + 1) := unitsOf_succ (m + 1)
  have hnarrow : quartersInOne * 10 ^ p.toNat < 4 * (spacing m * 10 ^ (-p).toNat) := step_lt hp
  have hwider : spacing m * 10 ^ (-p).toNat ≤ spacing (m + 1) * 10 ^ (-p).toNat :=
    Nat.mul_le_mul_right _ (spacing_mono (Nat.le_succ m))
  refine isSome_candidate? rfl rfl ?_ ?_
  · -- half of the distance to each neighbour is more than half a step of the last digit
    have hbelow : 2 * (4 * unitsOf (m + 1) * 10 ^ (-p).toNat) =
        2 * (2 * (unitsOf m + unitsOf (m + 1)) * 10 ^ (-p).toNat) +
          4 * (spacing m * 10 ^ (-p).toNat) := by
      rw [hunits]
      ring
    rw [Nat.add_sub_cancel]
    dsimp only
    omega
  · have habove : 2 * (2 * (unitsOf (m + 1) + unitsOf (m + 1 + 1)) * 10 ^ (-p).toNat) =
        2 * (4 * unitsOf (m + 1) * 10 ^ (-p).toNat) +
          4 * (spacing (m + 1) * 10 ^ (-p).toNat) := by
      rw [hnext]
      ring
    dsimp only
    omega

/-- Digits are found, and the decimal is nearest to what they stand for. -/
theorem exists_shortest (hd : 0 < d.magnitude) :
    ∃ m p, d.shortest = (m, p) ∧ Nearest d.magnitude (m * 10 ^ p * one) := by
  have hvalue : d.roundingInterval.value = 4 * unitsOf d.magnitude := by
    rw [roundingInterval_eq hd]
  have hsome : ((List.range 17).findSome? fun (k : Nat) =>
      (candidate? d.roundingInterval (leadingPlace d.roundingInterval.value - (k + 1))).map
        (·, leadingPlace d.roundingInterval.value - (k + 1))).isSome = true := by
    -- the search ends with seventeen digits at the latest
    rw [List.findSome?_isSome_iff]
    refine ⟨16, List.mem_range.mpr (by decide), ?_⟩
    rw [Option.isSome_map, hvalue]
    exact isSome_candidate?_seventeen hd
  obtain ⟨⟨m, p⟩, hfound⟩ := Option.isSome_iff_exists.mp hsome
  refine ⟨m, p, ?_, ?_⟩
  · rw [shortest]
    dsimp only
    rw [hfound, Option.getD_some]
  · obtain ⟨k, -, hk⟩ := List.exists_of_findSome?_eq_some hfound
    obtain ⟨c, hc, heq⟩ := Option.map_eq_some_iff.mp hk
    cases heq
    have hnearest := nearest_of_contains hd (Nat.pow_pos (by decide)) (contains_of_candidate? hc)
    generalize leadingPlace d.roundingInterval.value - (k + 1) = p at *
    have hunits : ((m * (quartersInOne * 10 ^ p.toNat) : Nat) : Rat) /
        (4 * (10 ^ (-p).toNat : Nat)) = m * 10 ^ p * one := by
      have hpos : (0 : Rat) < 4 * 10 ^ (-p).toNat := by positivity
      push_cast [quartersInOne]
      rw [← ten_zpow_mul p, div_eq_iff hpos.ne']
      ring
    rwa [hunits] at hnearest

end RecordExpr.Decimal
