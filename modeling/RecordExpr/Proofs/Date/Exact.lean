import RecordExpr.Proofs.Date.Interchange

/-!
# Dates in the form in which they are stored

The form of data interchange with as many digits of the second as needed is read again as the same
instant, in every year of the calendar and with leap seconds at the end of a minute
(`readRelaxed?_renderExact`). For other leap seconds there is no text in this form either. What is
liberal in the reading does not show in such a text, but for the years: those with a sign may have
more than four digits, and the sign says where they begin (`readSigned?_yearDigits`).

As in `RecordExpr.Proofs.Date.Interchange` the text gives parts and these describe the instant; here
the nanoseconds are all written, or none of them for a full second
(`readAfterPoint?_shortFraction`).
-/

namespace RecordExpr.DateFormat

open Calendar Text

variable {ps : Parts} {p : Part} {n : Number} {v : Int} {width m : Nat} {ds rest : List Char}
  {i : Instant}

/-! ### Years -/

/-- The digits after the sign of a year. -/
theorem exists_yearDigits_eq_sign_cons (hsigned : v < 0 ∨ 9999 < v) (habs : v.natAbs < 10 ^ 6) :
    ∃ ds width, yearDigits .zero v = (if v < 0 then '-' else '+') :: ds ∧
      Numeral width v.natAbs ds ∧ 1 ≤ width ∧ width ≤ 18 := by
  have hlength : (natDigits v.natAbs).length ≤ 6 :=
    (Nat.length_toDigits_le_iff (by decide) (by decide)).mpr habs
  have hpos : 1 ≤ (natDigits v.natAbs).length := Nat.length_toDigits_pos
  have hnumeral := (numeral_replicate_zero (4 - (natDigits v.natAbs).length)).append
    (numeral_natDigits v.natAbs)
  rw [Nat.mul_zero, Nat.zero_add] at hnumeral
  refine ⟨_, _, ?_, hnumeral, by omega, by omega⟩
  by_cases hneg : v < 0
  · simp [yearDigits, paddedInt, padLeft, hneg]
  · have hlong : 9999 < v := by omega
    simp [yearDigits, paddedInt, padLeft, hneg, hlong]

theorem endsDigits_cons {c : Char} (hc : c.isDigit = false) : EndsDigits (c :: rest) := by
  rintro _ ⟨⟩
  exact hc

theorem readSigned?_yearDigits (hfirst : firstYear ≤ v) (hlast : v ≤ lastYear) (rest : List Char) :
    readSigned? 4 (yearDigits .zero v ++ '-' :: rest) = some (v, '-' :: rest) := by
  simp only [firstYear, lastYear] at hfirst hlast
  have hrest : EndsDigits ('-' :: rest) := endsDigits_cons rfl
  by_cases hsigned : v < 0 ∨ 9999 < v
  · obtain ⟨ds, width, heq, hnumeral, hlower, hupper⟩ :=
      exists_yearDigits_eq_sign_cons hsigned (by omega)
    have hlength : width ≤ (ds ++ '-' :: rest).length := by
      rw [List.length_append, hnumeral.length_eq]
      omega
    have hread : readNumber? 1 none (ds ++ '-' :: rest) = some ((v.natAbs : Int), '-' :: rest) :=
      readNumber?_numeral hnumeral hlower hlength hupper (.inr hrest)
    rw [heq]
    by_cases hneg : v < 0
    · have hv : -(v.natAbs : Int) = v := by omega
      rw [if_pos hneg]
      show (readNumber? 1 none (ds ++ '-' :: rest)).map _ = _
      rw [hread, Option.map_some, hv]
    · have hv : (v.natAbs : Int) = v := by omega
      rw [if_neg hneg]
      show readNumber? 1 none (ds ++ '-' :: rest) = _
      rw [hread, hv]
  · have hnumeral : Numeral 4 v.toNat (yearDigits .zero v) :=
      numeral_yearDigits (by omega) (by omega)
    have hread : readNumber? 1 (some 4) (yearDigits .zero v ++ '-' :: rest) =
        some ((v.toNat : Int), '-' :: rest) :=
      readNumber?_numeral hnumeral (by decide) (by decide) (by decide) (.inl rfl)
    have hv : (v.toNat : Int) = v := by omega
    -- a digit is none of the signs
    obtain ⟨c, cs, hdigits, hc⟩ := hnumeral.exists_eq_cons (by decide)
    rw [hdigits] at hread ⊢
    rw [List.cons_append, readSigned?, ← List.cons_append, hread, hv]
    · rintro _ ⟨⟩
      cases hc
    · rintro _ ⟨⟩
      cases hc

theorem skipBlanks_yearDigits (v : Int) (rest : List Char) :
    skipBlanks (yearDigits .zero v ++ rest) = yearDigits .zero v ++ rest := by
  obtain ⟨c, cs, hyear, hblank, -⟩ := exists_yearDigits_eq_cons v
  rw [hyear]
  exact skipBlanks_eq_self (by rintro _ ⟨⟩; exact hblank)

/-! ### Parts -/

theorem readNumberItem?_year (hget : ps.get? .year = none) (hfirst : firstYear ≤ v)
    (hlast : v ≤ lastYear) (rest : List Char) :
    readNumberItem? .year (yearDigits .zero v ++ '-' :: rest, ps) =
      some ('-' :: rest, (.year, v) :: ps) := by
  have hput : putNumber? ps v .year = some ((.year, v) :: ps) := by
    simp only [firstYear, lastYear] at hfirst hlast
    exact Parts.put?_eq_cons hget rfl (by omega) (by omega)
  unfold readNumberItem?
  rw [skipBlanks_yearDigits]
  show (readSigned? 4 _).bind _ = _
  rw [readSigned?_yearDigits hfirst hlast]
  show (putNumber? ps v .year).bind _ = _
  rw [hput]
  rfl

/-- A number of two digits is read as an item of that width. -/
theorem readNumberItem?_twoDigits (hwidth : n.width = some 2) (hlower : 0 ≤ v) (hupper : v ≤ 99)
    (rest : List Char) :
    readNumberItem? n (twoDigits .zero v ++ rest, ps) = (putNumber? ps v n).map (rest, ·) := by
  have hnumeral := numeral_twoDigits hlower hupper
  have hskip : skipBlanks (twoDigits .zero v ++ rest) = twoDigits .zero v ++ rest := by
    obtain ⟨c, cs, heq, hc⟩ := hnumeral.exists_eq_cons (by decide)
    rw [heq]
    exact skipBlanks_eq_self (by rintro _ ⟨⟩; exact isBlank_of_isDigit hc)
  have hread : readNumber? 1 n.width (twoDigits .zero v ++ rest) = some (v, rest) := by
    rw [hwidth, readNumber?_numeral hnumeral (by decide) (by decide) (by decide) (.inl rfl),
      Int.toNat_of_nonneg hlower]
  unfold readNumberItem?
  rw [hskip]
  dsimp only
  split
  · cases hwidth
  · cases hwidth
  · rw [hread]
    show (putNumber? ps v n).bind _ = _
    cases putNumber? ps v n <;> rfl

/-- A number of two digits that is a part of its own. -/
theorem readNumberItem?_part {lower upper : Int} (hwidth : n.width = some 2)
    (hn : putNumber? ps v n = ps.put? p v) (hget : ps.get? p = none)
    (hrange : p.range = (lower, upper)) (hdigits : 0 ≤ lower ∧ upper ≤ 99) (hlower : lower ≤ v)
    (hupper : v ≤ upper) (rest : List Char) :
    readNumberItem? n (twoDigits .zero v ++ rest, ps) = some (rest, (p, v) :: ps) := by
  rw [readNumberItem?_twoDigits hwidth (by omega) (by omega), hn,
    Parts.put?_eq_cons hget hrange hlower hupper]
  rfl

theorem readNumberItem?_hour (hhalf : ps.get? .half = none) (hhour : ps.get? .hourInHalf = none)
    (hlower : 0 ≤ v) (hupper : v ≤ 23) (rest : List Char) :
    readNumberItem? .hour (twoDigits .zero v ++ rest, ps) =
      some (rest, (.hourInHalf, v % 12) :: (.half, v / 12) :: ps) := by
  rw [readNumberItem?_twoDigits rfl hlower (by omega), putNumber?_hour hhalf hhour hlower hupper]
  rfl

/-- The parts with nanoseconds, which are not written for a full second. -/
def withNanos (nano : Int) (ps : Parts) : Parts :=
  if nano = 0 then ps else (.nanosecond, nano) :: ps

theorem readAfterPoint?_shortFraction (hget : ps.get? .nanosecond = none) (hlower : 0 ≤ v)
    (hupper : v < nanosPerSecond) :
    readAfterPoint? readFraction? (shortFraction v ++ ['Z'], ps) =
      some (['Z'], withNanos v ps) := by
  have hrest : EndsDigits ['Z'] := endsDigits_cons rfl
  unfold shortFraction withNanos
  split
  · rfl
  -- as many digits are written as are not zero, in steps of three
  have hdigits {count : Nat} (hcount : 1 ≤ count) (hcount' : count ≤ 9)
      (hdvd : v % 10 ^ (9 - count) = 0) :
      readAfterPoint? readFraction? ('.' :: fractionDigits count v ++ ['Z'], ps) =
        some (['Z'], (.nanosecond, v) :: ps) := by
    rw [List.cons_append,
      readAfterPoint?_fractionDigits hget hcount hcount' hlower hupper hrest,
      Int.ediv_mul_cancel (Int.dvd_of_emod_eq_zero hdvd)]
  split
  · next h => exact hdigits (by decide) (by decide) h
  split
  · next h => exact hdigits (by decide) (by decide) h
  · exact hdigits (by decide) (by decide) (Int.emod_one v)

/-! ### The text of an instant -/

/-- The parts in the text of an instant, the last one first. -/
def exactPartsOf (i : Instant) : Parts :=
  (.offset, 0) :: withNanos (nanosecondOf i)
    [(.second, secondOf i), (.minute, minuteOf i), (.hourInHalf, hourOf i % 12),
      (.half, hourOf i / 12), (.day, dayOfMonth i.day), (.month, monthOf i.day),
      (.year, yearOf i.day)]

theorem toList_renderExact (i : Instant) :
    (renderExact i).toList =
      yearDigits .zero (yearOf i.day) ++ '-' :: (twoDigits .zero (monthOf i.day) ++
        '-' :: (twoDigits .zero (dayOfMonth i.day) ++ 'T' :: (twoDigits .zero (hourOf i) ++
        ':' :: (twoDigits .zero (minuteOf i) ++ ':' :: (twoDigits .zero (secondOf i) ++
        (shortFraction (nanosecondOf i) ++ ['Z'])))))) := by
  simp only [renderExact, isoText, civil_eq, String.toList_ofList, List.append_assoc,
    List.cons_append]

theorem readStamp?_renderExact (i : Instant) :
    readStamp? ((renderExact i).toList, []) = some ([], exactPartsOf i) := by
  obtain ⟨hfirst, hlast⟩ := i.yearOf_day_bounds
  obtain ⟨hmonth, hmonth'⟩ := monthOf_bounds i.day
  obtain ⟨hday, hday'⟩ := dayOfMonth_bounds i.day
  obtain ⟨hhour, hhour'⟩ := hourOf_bounds i
  obtain ⟨hminute, hminute'⟩ := minuteOf_bounds i
  obtain ⟨hsecond, hsecond'⟩ := secondOf_bounds i
  obtain ⟨hnano, hnano'⟩ := nanosecondOf_bounds i
  rw [toList_renderExact]
  -- each number in turn, with the character in front of it
  refine Option.bind_eq_some_iff.mpr ⟨_, readNumberItem?_year rfl hfirst hlast _, ?_⟩
  refine Option.bind_eq_some_iff.mpr ⟨_, rfl, Option.bind_eq_some_iff.mpr
    ⟨_, readNumberItem?_part rfl rfl rfl rfl (by decide) hmonth hmonth' _, ?_⟩⟩
  refine Option.bind_eq_some_iff.mpr ⟨_, rfl, Option.bind_eq_some_iff.mpr
    ⟨_, readNumberItem?_part rfl rfl rfl rfl (by decide) hday hday' _, ?_⟩⟩
  refine Option.bind_eq_some_iff.mpr ⟨_, rfl, Option.bind_eq_some_iff.mpr
    ⟨_, readNumberItem?_hour rfl rfl hhour hhour' _, ?_⟩⟩
  refine Option.bind_eq_some_iff.mpr ⟨_, rfl, Option.bind_eq_some_iff.mpr
    ⟨_, readNumberItem?_part rfl rfl rfl rfl (by decide) hminute hminute' _, ?_⟩⟩
  refine Option.bind_eq_some_iff.mpr ⟨_, rfl, Option.bind_eq_some_iff.mpr
    ⟨_, readNumberItem?_part rfl rfl rfl rfl (by decide) hsecond hsecond' _, ?_⟩⟩
  refine Option.bind_eq_some_iff.mpr
    ⟨_, readAfterPoint?_shortFraction rfl hnano hnano', ?_⟩
  -- the `Z` that is left is an offset and not the beginning of `UTC`
  refine Option.bind_eq_some_iff.mpr
    ⟨exactPartsOf i, Parts.put?_eq_cons ?_ rfl (by decide) (by decide), rfl⟩
  unfold withNanos
  split <;> rfl

theorem describe_exactPartsOf (i : Instant) : (exactPartsOf i).Describe i
    (if nanosecondOf i = 0 then none else some (nanosecondOf i)) := by
  intro p
  unfold exactPartsOf withNanos
  split <;> cases p <;> rfl

/-- Every instant for which there is a text is read back from the form in which it is stored. -/
theorem readRelaxed?_renderExact (i : Instant) :
    readRelaxed? (renderExact i) = some i.asWritten := by
  have hinstant : (exactPartsOf i.asWritten).instant = .ok i.asWritten := by
    refine (describe_exactPartsOf _).instant_eq i.endsMinute_asWritten rfl ?_
    have := i.asWritten.nano_lower
    split <;> simp only [Option.getD_none, Option.getD_some, nanosecondOf, nanosPerSecond] at * <;>
      omega
  rw [← renderExact_asWritten, readRelaxed?, readStamp?_renderExact]
  show found (exactPartsOf i.asWritten).instant = _
  rw [hinstant]
  rfl

/-- The last leap second of the calendar, in a year with a sign. -/
example :
    let last : Instant :=
      ⟨Calendar.lastSecond, 1999999000, by decide, by decide, by decide, by decide⟩
    renderExact last = "+262142-12-31T23:59:60.999999Z" ∧
      readRelaxed? "+262142-12-31T23:59:60.999999Z" = some last := by
  decide +kernel

end RecordExpr.DateFormat
