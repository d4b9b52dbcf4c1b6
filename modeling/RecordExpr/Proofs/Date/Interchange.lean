import RecordExpr.Coercion
import RecordExpr.Proofs.Date.Described
import RecordExpr.Proofs.Text.Digits

/-!
# Dates in the form of data interchange

The text of an instant in the form of data interchange is read again as the instant cut to whole
milliseconds, leap seconds at the end of a minute included, in the years from 0 to 9999. The text of
any other year begins with a sign and is refused (`readDate_writeDate`). There is no text for a leap
second within a minute, so that the next second is read in its place (`Instant.asWritten`).

The proof goes from the text to its parts and from them to the instant:

* numbers are written as numerals of a fixed width (`numeral_twoDigits`, `numeral_yearDigits`,
  `numeral_fractionDigits`);
* a numeral is read as the number it stands for (`readNumber?_numeral`), so that reading the text
  gives the parts of the instant (`readStrictParts?_renderMillis`);
* these describe the instant but for the nanoseconds that are cut off, so that they lead back to it
  without them (`instant_partsOf`).
-/

namespace RecordExpr

open Calendar Text

namespace Instant

/-- The last whole millisecond, in the same second. -/
def cutToMillis (i : Instant) : Instant where
  second := i.second
  nano := i.nano / nanosPerMilli * nanosPerMilli
  second_lower := i.second_lower
  second_upper := i.second_upper
  nano_lower := by
    have := i.nano_lower
    simp only [nanosPerMilli]
    omega
  nano_upper := by
    have := i.nano_upper
    simp only [nanosPerMilli, nanosPerSecond] at *
    omega

end Instant

namespace DateFormat

/-! ### What is written -/

theorem numeral_tensChar {n : Int} (hlower : 0 ≤ n) (hupper : n ≤ 9) :
    Numeral 1 n.toNat [tensChar n] := by
  have hall : ∀ k : Nat, k < 10 →
      (tensChar k).isDigit = true ∧ digitsValue [tensChar k] = k := by decide
  obtain ⟨k, rfl⟩ := Int.eq_ofNat_of_zero_le hlower
  obtain ⟨hdigit, hvalue⟩ := hall k (by omega)
  exact ⟨by simpa [AllDigits] using hdigit, rfl, hvalue⟩

/-- A number below a hundred is two digits, the first a zero where need be. -/
theorem numeral_twoDigits {n : Int} (hlower : 0 ≤ n) (hupper : n ≤ 99) :
    Numeral 2 n.toNat (twoDigits .zero n) := by
  have hvalue : n.toNat = 10 ^ 1 * (n / 10).toNat + (n % 10).toNat := by omega
  rw [hvalue]
  exact (numeral_tensChar (by omega) (by omega)).append (numeral_tensChar (by omega) (by omega))

/-- The years that are written with four digits and no sign. -/
theorem numeral_yearDigits {year : Int} (hlower : 0 ≤ year) (hupper : year ≤ 9999) :
    Numeral 4 year.toNat (yearDigits .zero year) := by
  have hneg : ¬year < 0 := by omega
  have hlong : ¬9999 < year := by omega
  have habs : year.natAbs = year.toNat := by omega
  have hpadded : yearDigits .zero year = zeroPadded 4 year.toNat := by
    simp [yearDigits, paddedInt, hneg, hlong, zeroPadded, habs]
  rw [hpadded]
  exact numeral_zeroPadded (by decide) (by omega)

/-- A year begins with a digit if it has four of them, or else with a sign. -/
theorem exists_yearDigits_eq_cons (year : Int) : ∃ c cs, yearDigits .zero year = c :: cs ∧
    isBlank c = false ∧ (c.isDigit = true ↔ 0 ≤ year ∧ year ≤ 9999) := by
  by_cases hyear : 0 ≤ year ∧ year ≤ 9999
  · obtain ⟨c, cs, hdigits, hc⟩ :=
      (numeral_yearDigits hyear.1 hyear.2).exists_eq_cons (by decide)
    exact ⟨c, cs, hdigits, isBlank_of_isDigit hc, iff_of_true hc hyear⟩
  · by_cases hneg : year < 0
    · exact ⟨'-', _, by simp [yearDigits, paddedInt, hneg]; rfl, rfl, iff_of_false nofun hyear⟩
    · have hlong : 9999 < year := by omega
      exact ⟨'+', _, by simp [yearDigits, paddedInt, hneg, hlong]; rfl, rfl,
        iff_of_false nofun hyear⟩

/-- A fraction is cut after its last digit and not rounded. -/
theorem numeral_fractionDigits {nano : Int} {count : Nat} (hcount : count ≤ 9)
    (hupper : nano < nanosPerSecond) :
    Numeral count (nano.toNat / 10 ^ (9 - count)) (fractionDigits count nano) := by
  refine (numeral_zeroPadded (by decide) ?_).take hcount
  simp only [nanosPerSecond] at hupper
  omega

/-! ### What is read -/

variable {ps qs : Parts} {p : Part} {n : Number} {v : Int} {least most width m : Nat}
  {ds rest : List Char}

/-- Numbers of up to 18 digits are never too large. -/
theorem readNumber?_numeral (h : Numeral width m ds) (hleast : least ≤ width)
    (hmost : width ≤ most) (hsmall : width ≤ 18) (hrest : width = most ∨ EndsDigits rest) :
    readNumber? least (some most) (ds ++ rest) = some ((m : Int), rest) := by
  have hlt : m < 0x8000000000000000 := by
    have hpow : 10 ^ width ≤ 10 ^ 18 := Nat.pow_le_pow_right (by decide) hsmall
    have := h.lt
    omega
  rw [← h.length_eq] at hleast hmost hrest
  rw [readNumber?, Option.getD_some, spanDigits_append h.allDigits hmost hrest]
  simp only [h.value_eq]
  exact if_pos ⟨hleast, hlt⟩

theorem readExact?_numeral (h : Numeral width v.toNat ds) (hsmall : width ≤ 18) (hv : 0 ≤ v)
    (rest : List Char) :
    readExact? width n (ds ++ rest, ps) = (putNumber? ps v n).map (rest, ·) := by
  rw [readExact?, readNumber?_numeral h (Nat.le_refl _) (Nat.le_refl _) hsmall (.inl rfl),
    Int.toNat_of_nonneg hv]
  show (putNumber? ps v n).bind _ = _
  cases putNumber? ps v n <;> rfl

/-- A part that is not there yet takes any value in its range. -/
theorem Parts.put?_eq_cons {lower upper : Int} (hget : ps.get? p = none)
    (hrange : p.range = (lower, upper)) (hlower : lower ≤ v) (hupper : v ≤ upper) :
    ps.put? p v = some ((p, v) :: ps) := by
  rw [put?, hrange, if_neg (by omega), hget]

/-- Four digits of a year are read as that year, where none has been read. -/
theorem readExact?_year (hget : ps.get? .year = none) (hlower : 0 ≤ v) (hupper : v ≤ 9999)
    (rest : List Char) :
    readExact? 4 .year (yearDigits .zero v ++ rest, ps) = some (rest, (.year, v) :: ps) := by
  have hput : putNumber? ps v .year = some ((.year, v) :: ps) :=
    Parts.put?_eq_cons hget rfl (by omega) (by omega)
  rw [readExact?_numeral (numeral_yearDigits hlower hupper) (by decide) hlower, hput]
  rfl

/-- The hour of the day has two parts. -/
theorem putNumber?_hour (hhalf : ps.get? .half = none) (hhour : ps.get? .hourInHalf = none)
    (hlower : 0 ≤ v) (hupper : v ≤ 23) :
    putNumber? ps v .hour = some ((.hourInHalf, v % 12) :: (.half, v / 12) :: ps) := by
  rw [putNumber?, Parts.putHour?, Parts.put?_eq_cons hhalf rfl (by omega) (by omega)]
  exact Parts.put?_eq_cons hhour rfl (by omega) (by omega)

/-- An hour is kept as a half of the day and an hour in it. -/
theorem readExact?_hour (hhalf : ps.get? .half = none) (hhour : ps.get? .hourInHalf = none)
    (hlower : 0 ≤ v) (hupper : v ≤ 23) (rest : List Char) :
    readExact? 2 .hour (twoDigits .zero v ++ rest, ps) =
      some (rest, (.hourInHalf, v % 12) :: (.half, v / 12) :: ps) := by
  rw [readExact?_numeral (numeral_twoDigits hlower (by omega)) (by decide) hlower,
    putNumber?_hour hhalf hhour hlower hupper]
  rfl

/-- Any other number of two digits is a part of its own. -/
theorem readExact?_part {lower upper : Int} (hn : putNumber? ps v n = ps.put? p v)
    (hget : ps.get? p = none) (hrange : p.range = (lower, upper))
    (hdigits : 0 ≤ lower ∧ upper ≤ 99) (hlower : lower ≤ v) (hupper : v ≤ upper)
    (rest : List Char) :
    readExact? 2 n (twoDigits .zero v ++ rest, ps) = some (rest, (p, v) :: ps) := by
  rw [readExact?_numeral (numeral_twoDigits (by omega) (by omega)) (by decide) (by omega), hn,
    Parts.put?_eq_cons hget hrange hlower hupper]
  rfl

theorem readFraction?_numeral (h : Numeral width m ds) (hlower : 1 ≤ width) (hupper : width ≤ 9)
    (hrest : EndsDigits rest) :
    readFraction? (ds ++ rest) = some (((m * 10 ^ (9 - width) : Nat) : Int), rest) := by
  have hdrop : rest.dropWhile Char.isDigit = rest := by
    cases rest with
    | nil => rfl
    | cons c rest => rw [List.dropWhile_cons_of_neg (by simp [hrest c rfl])]
  have hcount : (ds ++ rest).length - rest.length = width := by
    rw [List.length_append, Nat.add_sub_cancel, h.length_eq]
  unfold readFraction?
  rw [readNumber?_numeral h hlower hupper (by omega) (.inr hrest)]
  simp only [Option.bind_eq_bind, Option.bind_some, hcount, hdrop, Nat.pow_eq, Int.natCast_mul]
  rfl

/-- What is read of a fraction is what its digits leave of it. -/
theorem readFraction?_fractionDigits {count : Nat} (hcount : 1 ≤ count) (hcount' : count ≤ 9)
    (hlower : 0 ≤ v) (hupper : v < nanosPerSecond) (hrest : EndsDigits rest) :
    readFraction? (fractionDigits count v ++ rest) =
      some (v / 10 ^ (9 - count) * 10 ^ (9 - count), rest) := by
  have hvalue : ((v.toNat / 10 ^ (9 - count) * 10 ^ (9 - count) : Nat) : Int) =
      v / 10 ^ (9 - count) * 10 ^ (9 - count) := by
    rw [Int.natCast_mul, Int.natCast_ediv, Int.natCast_pow, Int.toNat_of_nonneg hlower]
    rfl
  rw [readFraction?_numeral (numeral_fractionDigits hcount' hupper) hcount hcount' hrest, hvalue]

/-- Some digits after a point are read as the nanoseconds with all others cut off. -/
theorem readAfterPoint?_fractionDigits {count : Nat} (hget : ps.get? .nanosecond = none)
    (hcount : 1 ≤ count) (hcount' : count ≤ 9) (hlower : 0 ≤ v) (hupper : v < nanosPerSecond)
    (hrest : EndsDigits rest) :
    readAfterPoint? readFraction? ('.' :: (fractionDigits count v ++ rest), ps) =
      some (rest, (.nanosecond, v / 10 ^ (9 - count) * 10 ^ (9 - count)) :: ps) := by
  have hpow : (0 : Int) < 10 ^ (9 - count) := Int.pow_pos (by decide)
  have hcut : v / 10 ^ (9 - count) * 10 ^ (9 - count) ≤ v :=
    Int.ediv_mul_le v (Int.ne_of_gt hpow)
  have hput : ps.put? .nanosecond (v / 10 ^ (9 - count) * 10 ^ (9 - count)) =
      some ((.nanosecond, v / 10 ^ (9 - count) * 10 ^ (9 - count)) :: ps) := by
    have hnonneg : 0 ≤ v / 10 ^ (9 - count) * 10 ^ (9 - count) :=
      Int.mul_nonneg (Int.ediv_nonneg hlower (Int.le_of_lt hpow)) (Int.le_of_lt hpow)
    exact Parts.put?_eq_cons hget rfl hnonneg (by simp only [nanosPerSecond] at *; omega)
  show (readFraction? _).bind _ = _
  rw [readFraction?_fractionDigits hcount hcount' hlower hupper hrest]
  show (ps.put? .nanosecond _).bind _ = _
  rw [hput]
  rfl

/-! ### The text of an instant -/

variable {i : Instant}

theorem hourOf_bounds (i : Instant) : 0 ≤ hourOf i ∧ hourOf i ≤ 23 := by
  simp only [hourOf, Instant.secondOfDay, secondsPerDay]
  omega

theorem minuteOf_bounds (i : Instant) : 0 ≤ minuteOf i ∧ minuteOf i ≤ 59 := by
  simp only [minuteOf]
  omega

theorem secondOf_bounds (i : Instant) : 0 ≤ secondOf i ∧ secondOf i ≤ 60 := by
  have := i.nano_lower
  have := i.nano_upper
  simp only [secondOf, nanosPerSecond] at *
  omega

theorem nanosecondOf_bounds (i : Instant) :
    0 ≤ nanosecondOf i ∧ nanosecondOf i < nanosPerSecond := by
  simp only [nanosecondOf, nanosPerSecond]
  omega

/-- The parts in the text of an instant, the last one first. -/
def partsOf (i : Instant) : Parts :=
  [(.offset, 0), (.nanosecond, nanosecondOf i / nanosPerMilli * nanosPerMilli),
    (.second, secondOf i), (.minute, minuteOf i), (.hourInHalf, hourOf i % 12),
    (.half, hourOf i / 12), (.day, dayOfMonth i.day), (.month, monthOf i.day),
    (.year, yearOf i.day)]

/-- The text of an instant, sign by sign. -/
theorem toList_renderMillis (i : Instant) :
    (renderMillis i).toList =
      yearDigits .zero (yearOf i.day) ++ '-' :: (twoDigits .zero (monthOf i.day) ++
        '-' :: (twoDigits .zero (dayOfMonth i.day) ++ 'T' :: (twoDigits .zero (hourOf i) ++
        ':' :: (twoDigits .zero (minuteOf i) ++ ':' :: (twoDigits .zero (secondOf i) ++
        '.' :: (fractionDigits 3 (nanosecondOf i) ++ ['Z'])))))) := by
  simp only [renderMillis, isoText, civil_eq, String.toList_ofList, List.append_assoc,
    List.cons_append]

/-- The strict reader takes its own text apart again, if the year has four digits. -/
theorem readStrictParts?_renderMillis (hlower : 0 ≤ yearOf i.day) (hupper : yearOf i.day ≤ 9999) :
    readStrictParts? (renderMillis i).toList = some (partsOf i) := by
  obtain ⟨hmonth, hmonth'⟩ := monthOf_bounds i.day
  obtain ⟨hday, hday'⟩ := dayOfMonth_bounds i.day
  obtain ⟨hhour, hhour'⟩ := hourOf_bounds i
  obtain ⟨hminute, hminute'⟩ := minuteOf_bounds i
  obtain ⟨hsecond, hsecond'⟩ := secondOf_bounds i
  obtain ⟨hnano, hnano'⟩ := nanosecondOf_bounds i
  rw [toList_renderMillis]
  -- each number in turn, with the character in front of it
  refine Option.bind_eq_some_iff.mpr ⟨_, readExact?_year rfl hlower hupper _, ?_⟩
  refine Option.bind_eq_some_iff.mpr ⟨_, rfl, Option.bind_eq_some_iff.mpr
    ⟨_, readExact?_part rfl rfl rfl (by decide) hmonth hmonth' _, ?_⟩⟩
  refine Option.bind_eq_some_iff.mpr ⟨_, rfl, Option.bind_eq_some_iff.mpr
    ⟨_, readExact?_part rfl rfl rfl (by decide) hday hday' _, ?_⟩⟩
  refine Option.bind_eq_some_iff.mpr ⟨_, rfl, Option.bind_eq_some_iff.mpr
    ⟨_, readExact?_hour rfl rfl hhour hhour' _, ?_⟩⟩
  refine Option.bind_eq_some_iff.mpr ⟨_, rfl, Option.bind_eq_some_iff.mpr
    ⟨_, readExact?_part rfl rfl rfl (by decide) hminute hminute' _, ?_⟩⟩
  refine Option.bind_eq_some_iff.mpr ⟨_, rfl, Option.bind_eq_some_iff.mpr
    ⟨_, readExact?_part rfl rfl rfl (by decide) hsecond hsecond' _, ?_⟩⟩
  refine Option.bind_eq_some_iff.mpr
    ⟨_, readAfterPoint?_fractionDigits rfl (by decide) (by decide) hnano hnano'
      (by rintro _ ⟨⟩; rfl), ?_⟩
  refine Option.bind_eq_some_iff.mpr ⟨(0, []), rfl, ?_⟩
  exact (if_pos ⟨rfl, by decide⟩).trans <| Parts.put?_eq_cons rfl rfl (by decide) (by decide)

/-! ### The instant of a text -/

theorem describe_partsOf (i : Instant) :
    (partsOf i).Describe i (some (nanosecondOf i / nanosPerMilli * nanosPerMilli)) := by
  intro p
  cases p <;> rfl

/-- Where the last second of a minute is the only long one, the parts name the instant. -/
theorem instant_partsOf (hclock : i.EndsMinute) : (partsOf i).instant = .ok i.cutToMillis := by
  refine (describe_partsOf i).instant_eq hclock rfl ?_
  have := i.nano_lower
  simp only [Instant.cutToMillis, Option.getD_some, nanosecondOf, nanosPerMilli, nanosPerSecond]
  omega

/-! ### Reading what was written -/

/-- What is read is the instant as its text has it, with the nanoseconds cut to milliseconds. -/
theorem readStrict?_renderMillis (hlower : 0 ≤ yearOf i.day) (hupper : yearOf i.day ≤ 9999) :
    readStrict? (renderMillis i) = some i.asWritten.cutToMillis := by
  rw [← (clock_asWritten i).1] at hlower hupper
  rw [← renderMillis_asWritten, readStrict?, readStrictParts?_renderMillis hlower hupper]
  show found (partsOf i.asWritten).instant = _
  rw [instant_partsOf i.endsMinute_asWritten]
  rfl

/-- The strict form begins with a digit. -/
theorem readStrictParts?_eq_none {c : Char} {cs : List Char} (h : c.isDigit = false) :
    readStrictParts? (c :: cs) = none := by
  have hspan : spanDigits 4 (c :: cs) = ([], c :: cs) := by simp [spanDigits, h]
  have hnumber : readNumber? 4 (some 4) (c :: cs) = none := by
    rw [readNumber?, Option.getD_some, hspan]
    exact if_neg (by simp)
  unfold readStrictParts? readExact?
  rw [hnumber]
  rfl

/-- The text begins with a digit exactly if its year needs no sign. -/
theorem exists_toList_renderMillis (i : Instant) : ∃ c cs, (renderMillis i).toList = c :: cs ∧
    isBlank c = false ∧ (c.isDigit = true ↔ 0 ≤ yearOf i.day ∧ yearOf i.day ≤ 9999) := by
  obtain ⟨c, cs, hyear, hc⟩ := exists_yearDigits_eq_cons (yearOf i.day)
  rw [toList_renderMillis, hyear]
  exact ⟨c, _, rfl, hc⟩

/-- There are no blanks around the text of an instant. -/
theorem trim_renderMillis (i : Instant) : trim (renderMillis i) = renderMillis i := by
  obtain ⟨c, cs, hcons, hblank, -⟩ := exists_toList_renderMillis i
  have hhead : ∀ c ∈ (renderMillis i).toList.head?, isBlank c = false := by
    rw [hcons]
    rintro _ ⟨⟩
    exact hblank
  have hlast : ∀ c ∈ (renderMillis i).toList.getLast?, isBlank c = false := by
    rw [renderMillis, String.toList_ofList, List.getLast?_concat]
    rintro _ ⟨⟩
    rfl
  rw [trim, trimmed_eq_self hhead hlast, String.ofList_toList]

/-- A text of data interchange is read in the years for which there is a strict form. -/
theorem readDate_renderMillis (i : Instant) : readDate (renderMillis i) none =
    if 0 ≤ yearOf i.day ∧ yearOf i.day ≤ 9999 then .ok i.asWritten.cutToMillis
    else .error (.coercionFailed (renderMillis i) .date) := by
  rw [readDate, trim_renderMillis]
  split
  · next hyear => rw [readStrict?_renderMillis hyear.1 hyear.2, orCoercionError]
  · next hyear =>
    obtain ⟨c, cs, hcons, -, hdigit⟩ := exists_toList_renderMillis i
    have hc : c.isDigit = false := by
      rw [← hdigit] at hyear
      exact Bool.eq_false_iff.mpr hyear
    rw [readStrict?, hcons, readStrictParts?_eq_none hc]
    rfl

end DateFormat

open DateFormat

/-- A date that was written in the form of data interchange is read again as an instant cut to whole
milliseconds, if its year has four digits and no sign, and is refused in every other year. What is
read is the date itself cut to milliseconds, unless the date lies in a leap second within a minute:
then it is the next second. -/
theorem readDate_writeDate (i : Instant) : ∃ text, writeDate i none = .ok text ∧
    (readDate text none =
      if 0 ≤ yearOf i.day ∧ yearOf i.day ≤ 9999 then .ok i.asWritten.cutToMillis
      else .error (.coercionFailed text .date)) ∧
    (i.asWritten.cutToMillis = i.cutToMillis ↔ i.EndsMinute) := by
  refine ⟨renderMillis i, rfl, readDate_renderMillis i, fun h => ?_, fun h => ?_⟩
  · have hsecond := congrArg Instant.second h
    exact Instant.second_asWritten_eq_iff.mp hsecond
  · rw [Instant.asWritten_of_endsMinute h]

/-- A third of a leap second after 23:56:04 is written as 23:56:05.333, which is another date. -/
theorem readDate_writeDate_ne_cutToMillis :
    ¬∀ i : Instant, ∃ text, writeDate i none = .ok text ∧ readDate text none =
      if 0 ≤ yearOf i.day ∧ yearOf i.day ≤ 9999 then .ok i.cutToMillis
      else .error (.coercionFailed text .date) := by
  intro h
  let i : Instant := ⟨86164, 1333333333, by decide, by decide, by decide, by decide⟩
  obtain ⟨text, htext, hread⟩ := h i
  obtain rfl : renderMillis i = text := Except.ok.inj htext
  have hyear : 0 ≤ yearOf i.day ∧ yearOf i.day ≤ 9999 := by decide
  rw [readDate_renderMillis, if_pos hyear, if_pos hyear] at hread
  exact absurd (congrArg Instant.second (Except.ok.inj hread)) (by decide)

end RecordExpr
