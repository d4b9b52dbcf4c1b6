import RecordExpr.Decimal.Reader
import RecordExpr.Proofs.Decimal.Shortest

/-!
# Decimals that are written and read

A decimal is read back from its text bit by bit, except that every NaN is read back as the same one
(`parse?_render`).

* `spells_magnitudeText`: the text of a finite decimal stands for a number that the decimal is
  nearest to, wherever the digits of the number end up around the point;
* `unsignedOf?_append`: digits with a point are read as the number that they stand for, and rounded;
* `ofScientific_eq`: rounding leads to the decimal that is nearest. The powers of ten that are cut
  short are out of reach of finite decimals on both sides.
-/

namespace RecordExpr.Decimal

open Text

variable {d : Decimal} {m x : Nat} {e p : Int} {v : Rat} {cs ds es : List Char}

/-! ### Powers of ten -/

/-- Finite decimals are nearest to nothing of more than 400 digits. -/
theorem lt_of_nearest (h : Nearest x (v * one)) (hx : x < infiniteMagnitude) : v < 10 ^ 400 := by
  have hupper := h.upper
  -- the midpoint above is still below the magnitude of the infinities
  have hgrid : unitsOf x + unitsOf (x + 1) ≤ 2 * unitsOf infiniteMagnitude := by
    have hle : unitsOf x ≤ unitsOf infiniteMagnitude := strictMono_unitsOf.monotone hx.le
    have hnext : unitsOf (x + 1) ≤ unitsOf infiniteMagnitude := strictMono_unitsOf.monotone hx
    omega
  have htop : unitsOf infiniteMagnitude < 10 ^ 400 * one := by decide +kernel
  have hsmall : unitsOf x + unitsOf (x + 1) < 2 * (10 ^ 400 * one) := by omega
  have hcast := Nat.cast_lt (α := Rat).mpr hsmall
  simp only [Nat.cast_add, Nat.cast_mul, Nat.cast_pow, Nat.cast_ofNat] at hcast
  have hdouble : 2 * (v * one) < 2 * (10 ^ 400 * one) := hupper.trans_lt hcast
  exact lt_of_mul_lt_mul_right (lt_of_mul_lt_mul_left hdouble zero_le_two) (Nat.cast_nonneg _)

/-- Less than 400 zeros after the point leave nothing of the number. -/
theorem eq_zero_of_nearest (h : Nearest x (v * one)) (hv : 0 ≤ v) (hsmall : v ≤ (10 ^ 400)⁻¹) :
    x = 0 := by
  have hone : (2 * one : Nat) ≤ 10 ^ 400 := by decide +kernel
  have hcast := Nat.cast_le (α := Rat).mpr hone
  have hpos : (0 : Rat) < 10 ^ 400 := by positivity
  have hnonneg : (0 : Rat) ≤ one := Nat.cast_nonneg _
  simp only [Nat.cast_mul, Nat.cast_pow, Nat.cast_ofNat] at hcast
  refine h.unique (nearest_zero (mul_nonneg hv hnonneg) ?_)
  calc 2 * (v * one) = v * (2 * one) := by ring
    _ ≤ (10 ^ 400)⁻¹ * (2 * one) := mul_le_mul_of_nonneg_right hsmall (by positivity)
    _ ≤ (10 ^ 400)⁻¹ * 10 ^ 400 := mul_le_mul_of_nonneg_left hcast (by positivity)
    _ = 1 := inv_mul_cancel₀ hpos.ne'

/-- Digits that a finite decimal is nearest to do not reach too high a place. -/
theorem length_add_le (hm : 0 < m) (h : Nearest x (m * 10 ^ e * one)) (hx : x < infiniteMagnitude) :
    ((natDigits m).length : Int) + e ≤ 400 := by
  have hten : (10 : Rat) ≠ 0 := by norm_num
  have hlower : 10 ^ ((natDigits m).length - 1) ≤ m := pow_length_natDigits_le hm
  have hlength : 1 ≤ (natDigits m).length := Nat.length_toDigits_pos
  generalize (natDigits m).length = k at *
  have hlower' : ((10 ^ (k - 1) : Nat) : Rat) ≤ m := Nat.cast_le.mpr hlower
  have hpow : (0 : Rat) < 10 ^ e := zpow_pos (by norm_num) e
  push_cast at hlower'
  by_contra hlarge
  refine absurd (lt_of_nearest h hx) (not_lt.mpr ?_)
  calc (10 : Rat) ^ 400 = 10 ^ (400 : Int) := (zpow_natCast _ _).symm
    _ ≤ 10 ^ (((k - 1 : Nat) : Int) + e) := zpow_le_zpow_right₀ (by norm_num) (by omega)
    _ = 10 ^ (k - 1) * 10 ^ e := by rw [zpow_add₀ hten, zpow_natCast]
    _ ≤ m * 10 ^ e := mul_le_mul_of_nonneg_right hlower' hpow.le

/-- Digits that begin at too low a place stand for nothing that is left. -/
theorem eq_zero_of_length_add_lt (h : Nearest x (m * 10 ^ e * one))
    (hlow : ((natDigits m).length : Int) + e < -400) : x = 0 := by
  have hten : (10 : Rat) ≠ 0 := by norm_num
  have hupper : m < 10 ^ (natDigits m).length := lt_pow_length_natDigits m
  generalize (natDigits m).length = k at *
  have hupper' : (m : Rat) ≤ (10 ^ k : Nat) := Nat.cast_le.mpr hupper.le
  have hpow : (0 : Rat) < 10 ^ e := zpow_pos (by norm_num) e
  push_cast at hupper'
  refine eq_zero_of_nearest h (by positivity) ?_
  calc (m : Rat) * 10 ^ e ≤ 10 ^ k * 10 ^ e := mul_le_mul_of_nonneg_right hupper' hpow.le
    _ = 10 ^ ((k : Int) + e) := by rw [zpow_add₀ hten, zpow_natCast]
    _ ≤ 10 ^ (-400 : Int) := zpow_le_zpow_right₀ (by norm_num) (by omega)
    _ = (10 ^ 400)⁻¹ := by rw [zpow_neg]; rfl

theorem ofRatio_eq {a b : Nat} (negative : Bool) (hb : 0 < b) (h : Nearest x (a / b))
    (hx : x < infiniteMagnitude) : ofRatio negative a b = ofMagnitude negative x := by
  rw [ofRatio, nearestMagnitude_eq hb h hx.le]

/-- Reading digits and a power of ten gives the nearest finite decimal, if there is one. -/
theorem ofScientific_eq (negative : Bool) (h : Nearest x (m * 10 ^ e * one))
    (hx : x < infiniteMagnitude) : ofScientific negative m e = ofMagnitude negative x := by
  rw [ofScientific]
  by_cases hm : m = 0
  · have hzero : x = 0 := by
      refine eq_zero_of_nearest h ?_ ?_ <;> rw [hm] <;> simp
    rw [if_pos hm, hzero]
    rfl
  -- the two shortcuts for exponents out of range do not lose a number
  have htop : ¬400 < ((natDigits m).length : Int) + e :=
    not_lt.mpr (length_add_le (Nat.pos_of_ne_zero hm) h hx)
  rw [if_neg hm]
  dsimp only [Nat.pow_eq]
  rw [if_neg htop]
  by_cases hbottom : ((natDigits m).length : Int) + e < -400
  · rw [if_pos hbottom, eq_zero_of_length_add_lt h hbottom]
    rfl
  rw [if_neg hbottom]
  split
  · next he =>
    -- the power of ten goes to the numerator or to the denominator
    have hunits : (m : Rat) * 10 ^ e * one = (m * 10 ^ e.toNat * one : Nat) / (1 : Nat) := by
      have hexp : (10 : Rat) ^ e = 10 ^ e.toNat := by
        rw [← zpow_natCast, Int.toNat_of_nonneg he]
      push_cast
      rw [hexp, div_one]
    rw [hunits] at h
    exact ofRatio_eq negative Nat.one_pos h hx
  · next he =>
    have hunits : (m : Rat) * 10 ^ e * one = (m * one : Nat) / (10 ^ (-e).toNat : Nat) := by
      have hexp : (10 : Rat) ^ e = (10 ^ (-e).toNat)⁻¹ := by
        rw [← zpow_natCast, Int.toNat_of_nonneg (by omega), zpow_neg, inv_inv]
      push_cast
      rw [hexp]
      ring
    rw [hunits] at h
    exact ofRatio_eq negative (Nat.pow_pos (by decide)) h hx

/-! ### Digits around a point -/

/-- Digits with a point among them, which stand for `v`. -/
structure SpellsAround (v : Rat) (ds es : List Char) : Prop where
  whole : AllDigits ds
  whole_ne_nil : ds ≠ []
  places : AllDigits es
  places_ne_nil : es ≠ []
  value : (digitsValue (ds ++ es) : Rat) = v * 10 ^ es.length

/-- Digits that stand for `v`, with a point among them or, for an integer, without one. -/
inductive Spells (v : Rat) : List Char → Prop
  | integer {ds : List Char} (hd : AllDigits ds) (hne : ds ≠ []) (hv : digitsValue ds = v) :
    Spells v ds
  | around {ds es : List Char} (h : SpellsAround v ds es) : Spells v (ds ++ '.' :: es)

theorem not_mem_of_allDigits {c : Char} (h : AllDigits ds) (hc : c.isDigit = false) : c ∉ ds := by
  intro hmem
  rw [h c hmem] at hc
  cases hc

/-- With a zero after the point an integer is written with one as well. -/
theorem Spells.exists_around (h : Spells v cs) : ∃ ds es, SpellsAround v ds es ∧
    (if '.' ∉ cs then cs ++ ['.', '0'] else cs) = ds ++ '.' :: es := by
  cases h with
  | integer hd hne hv =>
    have hzero : Numeral 1 0 ['0'] := numeral_replicate_zero 1
    refine ⟨cs, ['0'], ⟨hd, hne, hzero.allDigits, by simp, ?_⟩, ?_⟩
    · rw [digitsValue_append, hzero.value_eq, ← hv]
      push_cast
      ring
    · rw [if_pos (not_mem_of_allDigits hd rfl)]
  | @around ds es h => exact ⟨ds, es, h, by simp⟩

/-- Digits are written around the point at their places. -/
theorem spells_positional (m : Nat) (p : Int) : Spells (m * 10 ^ p) (positional m p) := by
  have hten : (10 : Rat) ≠ 0 := by norm_num
  have hdigits : Numeral (natDigits m).length m (natDigits m) := numeral_natDigits m
  have hlength : 0 < (natDigits m).length := Nat.length_toDigits_pos
  rw [positional]
  dsimp only
  split
  · next hp =>
    -- zeros up to the point
    have h := hdigits.append (numeral_replicate_zero p.toNat)
    refine .integer h.allDigits ?_ ?_
    · exact List.append_ne_nil_of_left_ne_nil (List.ne_nil_of_length_pos hlength) _
    · have hexp : (10 : Rat) ^ p = 10 ^ p.toNat := by
        rw [← zpow_natCast, Int.toNat_of_nonneg hp]
      rw [h.value_eq, hexp]
      push_cast
      ring
  · next hp =>
    have hvalue : (m : Rat) = m * 10 ^ p * 10 ^ (-p).toNat := by
      rw [← zpow_natCast, Int.toNat_of_nonneg (by omega), mul_assoc, ← zpow_add₀ hten,
        Int.add_right_neg, zpow_zero, mul_one]
    generalize hk : (-p).toNat = k at *
    split
    · next hlt =>
      -- the point is among the digits
      have htake : AllDigits ((natDigits m).take ((natDigits m).length - k)) :=
        fun c hc => hdigits.allDigits c (List.mem_of_mem_take hc)
      have hdrop : AllDigits ((natDigits m).drop ((natDigits m).length - k)) :=
        fun c hc => hdigits.allDigits c (List.mem_of_mem_drop hc)
      refine .around ⟨htake, ?_, hdrop, ?_, ?_⟩
      · refine List.ne_nil_of_length_pos ?_
        rw [List.length_take]
        omega
      · refine List.ne_nil_of_length_pos ?_
        rw [List.length_drop]
        omega
      · have hplaces : (natDigits m).length - ((natDigits m).length - k) = k := by omega
        rw [List.take_append_drop, hdigits.value_eq, List.length_drop, hplaces]
        exact hvalue
    · next hle =>
      -- zeros from the point to the digits, and one before it
      have hplaces : k - (natDigits m).length + (natDigits m).length = k := by omega
      have hafter := (numeral_replicate_zero (k - (natDigits m).length)).append hdigits
      have h := (numeral_replicate_zero 1).append hafter
      have hzero : AllDigits ['0'] := (numeral_replicate_zero 1).allDigits
      refine .around ⟨hzero, by simp, hafter.allDigits, ?_, ?_⟩
      · refine List.ne_nil_of_length_pos ?_
        rw [hafter.length_eq]
        omega
      · have hnumber := h.value_eq
        rw [Nat.mul_zero, Nat.zero_add, Nat.mul_zero, Nat.zero_add] at hnumber
        rw [hafter.length_eq, hplaces, ← hvalue]
        exact congrArg Nat.cast hnumber

/-- Zeros that are divided out leave the number as it is. -/
theorem stripZeros_value (fuel m : Nat) (p : Int) :
    ((stripZeros fuel m p).1 : Rat) * 10 ^ (stripZeros fuel m p).2 = m * 10 ^ p := by
  have hten : (10 : Rat) ≠ 0 := by norm_num
  induction fuel generalizing m p with
  | zero => rfl
  | succ fuel ih =>
    rw [stripZeros]
    split
    · next h =>
      have hdiv : m / 10 * 10 = m := by omega
      have hcast : ((m / 10 * 10 : Nat) : Rat) = m := by rw [hdiv]
      push_cast at hcast
      rw [ih, zpow_add₀ hten, zpow_one, ← hcast]
      ring
    · rfl

/-- The text of a finite decimal stands for a number that the decimal is nearest to. -/
theorem spells_magnitudeText (d : Decimal) :
    ∃ v, Spells v d.magnitudeText ∧ Nearest d.magnitude (v * one) := by
  rw [magnitudeText]
  by_cases hzero : d.magnitude = 0
  · have hd : d.isZero = true := by rw [isZero, hzero]; rfl
    have hdigits : Numeral 1 0 ['0'] := numeral_replicate_zero 1
    rw [if_pos hd, hzero]
    refine ⟨0, .integer hdigits.allDigits (by simp) ?_, ?_⟩
    · rw [hdigits.value_eq, Nat.cast_zero]
    · exact nearest_zero (by simp) (by simp)
  · have hd : d.isZero = false := by rw [isZero]; simpa using hzero
    obtain ⟨m, p, hshortest, hnearest⟩ := exists_shortest (Nat.pos_of_ne_zero hzero)
    have hvalue := stripZeros_value 17 m p
    rw [if_neg (by simp [hd]), hshortest]
    dsimp only
    generalize stripZeros 17 m p = s at *
    obtain ⟨m', p'⟩ := s
    refine ⟨m' * 10 ^ p', spells_positional m' p', ?_⟩
    rwa [hvalue]

/-! ### Reading digits around a point -/

theorem unsignedOf?_append (negative : Bool) (hd : AllDigits ds) (hne : ds ≠ [])
    (he : AllDigits es) : unsignedOf? negative (ds ++ '.' :: es) =
      some (ofScientific negative (digitsValue (ds ++ es)) (-es.length)) := by
  have hrest : EndsDigits ('.' :: es) := by
    rintro c ⟨⟩
    rfl
  have hwhole : (ds ++ '.' :: es).takeWhile Char.isDigit = ds := takeWhile_isDigit_append hd hrest
  have hafter : (ds ++ '.' :: es).dropWhile Char.isDigit = '.' :: es := by
    rw [List.dropWhile_append_of_pos hd]
    rfl
  have hplaces : es.takeWhile Char.isDigit = es := by
    have hnil : EndsDigits [] := by rintro _ ⟨⟩
    rw [← List.append_nil es, takeWhile_isDigit_append he hnil, List.append_nil]
  have hend : es.dropWhile Char.isDigit = [] := by
    rw [← List.append_nil es, List.dropWhile_append_of_pos he]
    rfl
  simp only [unsignedOf?, hwhole, hafter, fractionOf, hplaces, hend, hne, false_and, if_false]

/-- Digits with a point among them are read as the decimal nearest to what they stand for. -/
theorem SpellsAround.unsignedOf?_eq (h : SpellsAround v ds es) (negative : Bool)
    (hnearest : Nearest x (v * one)) (hx : x < infiniteMagnitude) :
    unsignedOf? negative (ds ++ '.' :: es) = some (ofMagnitude negative x) := by
  have hten : (10 : Rat) ≠ 0 := by norm_num
  have hvalue : v = digitsValue (ds ++ es) * 10 ^ (-(es.length : Int)) := by
    rw [h.value, zpow_neg, zpow_natCast, mul_inv_cancel_right₀ (pow_ne_zero _ hten)]
  rw [hvalue] at hnearest
  rw [unsignedOf?_append negative h.whole h.whole_ne_nil h.places, ofScientific_eq _ hnearest hx]

/-- A text with a point in it is none of the words. -/
theorem ofChars?_append (h : SpellsAround v ds es) (negative : Bool) :
    ofChars? ((if negative then ['-'] else []) ++ (ds ++ '.' :: es)) =
      unsignedOf? negative (ds ++ '.' :: es) := by
  have hsign : signOf ((if negative then ['-'] else []) ++ (ds ++ '.' :: es)) =
      (negative, ds ++ '.' :: es) := by
    cases negative with
    | true => rfl
    | false =>
      obtain ⟨c, ds, rfl⟩ := List.exists_cons_of_ne_nil h.whole_ne_nil
      have hc : c.isDigit = true := h.whole c (List.mem_cons_self ..)
      rw [if_neg Bool.false_ne_true, List.nil_append, List.cons_append, signOf]
      · rintro _ ⟨⟩
        cases hc
      · rintro _ ⟨⟩
        cases hc
  -- the words have no point in them
  have hword (word : String) (hpoint : '.' ∉ word.toList) :
      (String.ofList ((ds ++ '.' :: es).map Char.toLower) == word) = false := by
    refine beq_eq_false_iff_ne.mpr ?_
    rintro rfl
    refine hpoint ?_
    rw [String.toList_ofList]
    exact List.mem_map.mpr ⟨'.', by simp, rfl⟩
  rw [ofChars?, hsign]
  dsimp only
  rw [hword "inf" (by decide), hword "infinity" (by decide), hword "nan" (by decide)]
  rfl

/-! ### Reading what is written -/

/-- Nothing is blank at either end of a number. -/
theorem trimmed_append (h : SpellsAround v ds es) (negative : Bool) :
    trimmed ((if negative then ['-'] else []) ++ (ds ++ '.' :: es)) =
      (if negative then ['-'] else []) ++ (ds ++ '.' :: es) := by
  refine trimmed_eq_self ?_ ?_
  · cases negative with
    | true =>
      rintro c ⟨⟩
      rfl
    | false =>
      obtain ⟨c, ds, rfl⟩ := List.exists_cons_of_ne_nil h.whole_ne_nil
      rintro c ⟨⟩
      exact isBlank_of_isDigit (h.whole c (List.mem_cons_self ..))
  · intro c hc
    have hlast : es.getLast h.places_ne_nil = c := by
      simpa [h.places_ne_nil, List.getLast?_eq_getLast_of_ne_nil] using hc
    rw [← hlast]
    exact isBlank_of_isDigit (h.places _ (List.getLast_mem _))

theorem plainText_of_isNaN (h : d.isNaN = true) : d.plainText = "NaN".toList := by
  rw [plainText, if_pos h]

theorem renderPlain_of_isNaN (h : d.isNaN = true) : d.renderPlain = "NaN" := by
  rw [renderPlain, plainText_of_isNaN h, String.ofList_toList]

/-- There is one text for every NaN. -/
theorem render_of_isNaN (h : d.isNaN = true) : d.render = "NaN" := by
  have hfinite : ¬(d.isFinite = true ∧ '.' ∉ d.plainText) := by
    rw [isFinite_of_isNaN h]
    exact fun hd => Bool.false_ne_true hd.1
  rw [render, if_neg hfinite, plainText_of_isNaN h, String.ofList_toList]

theorem parse?_render_of_isNaN (h : d.isNaN = true) : parse? d.render = some nan := by
  rw [render_of_isNaN h]
  decide +kernel

theorem parse?_render_infinity (negative : Bool) :
    parse? (infinity negative).render = some (infinity negative) := by
  cases negative <;> decide +kernel

theorem parse?_render_of_isFinite (h : d.isFinite = true) : parse? d.render = some d := by
  have hnan : ¬d.isNaN = true := by rw [isNaN_of_isFinite h]; exact Bool.false_ne_true
  have hlt : d.magnitude < infiniteMagnitude := isFinite_iff.mp h
  have hinf : ¬d.isInfinite = true := by
    rw [isInfinite, beq_iff_eq]
    exact hlt.ne
  obtain ⟨v, hspells, hnearest⟩ := spells_magnitudeText d
  obtain ⟨ds, es, haround, htext⟩ := hspells.exists_around
  have hplain : d.plainText = (if d.isNegative then ['-'] else []) ++ d.magnitudeText := by
    rw [plainText, if_neg hnan, if_neg hinf]
  -- a sign is no point, so `.0` is put after the same texts
  have hpoint : '.' ∉ d.plainText ↔ '.' ∉ d.magnitudeText := by
    rw [hplain]
    cases d.isNegative <;> simp
  have hrender : d.render =
      String.ofList ((if d.isNegative then ['-'] else []) ++ (ds ++ '.' :: es)) := by
    rw [render, ← htext]
    simp only [h, true_and, hpoint]
    split
    · rw [hplain, List.append_assoc]
    · rw [hplain]
  rw [parse?, hrender, String.toList_ofList, trimmed_append haround, ofChars?_append haround,
    haround.unsignedOf?_eq _ hnearest hlt, ofMagnitude_magnitude]

/-- Writing a decimal and reading it back gives the same bits, but for a NaN, which comes back as
the quiet one. -/
theorem parse?_render (d : Decimal) : parse? d.render = some (if d.isNaN then nan else d) := by
  by_cases hnan : d.isNaN = true
  · rw [if_pos hnan, parse?_render_of_isNaN hnan]
  rw [if_neg hnan]
  by_cases hfinite : d.isFinite = true
  · exact parse?_render_of_isFinite hfinite
  · -- only the infinities are left
    rw [isNaN_iff] at hnan
    rw [isFinite_iff] at hfinite
    have hmagnitude : d.magnitude = infiniteMagnitude := by omega
    have hd : infinity d.isNegative = d := by rw [infinity, ← hmagnitude, ofMagnitude_magnitude]
    rw [← hd, parse?_render_infinity]

end RecordExpr.Decimal
