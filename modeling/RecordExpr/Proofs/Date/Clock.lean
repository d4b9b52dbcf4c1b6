import RecordExpr.Date.Printer

/-!
# Leap seconds on a clock

An instant may lie in a leap second after any second, but a text can say so only at the end of a
minute, by a second 60. Anywhere else the leap second is written as the second that comes after it,
so that another instant has the same text (`isoText_asWritten`). This one, `Instant.asWritten`, is
the instant itself unless there is such a leap second (`Instant.asWritten_eq_self_iff`), and it has
none any more (`Instant.endsMinute_asWritten`). A date that is read from its text can be no other.
-/

namespace RecordExpr

namespace Instant

/-- A leap second, if the instant lies in one, ends a minute. -/
def EndsMinute (i : Instant) : Prop := i.isLeap → i.second % 60 = 59

instance (i : Instant) : Decidable i.EndsMinute := inferInstanceAs (Decidable (_ → _))

/-- Some second of the minute comes after the one that is prolonged within it. -/
theorem second_lt_of_not_endsMinute {i : Instant} (h : ¬i.EndsMinute) :
    i.second % 60 < 59 ∧ nanosPerSecond ≤ i.nano := by
  rw [EndsMinute, Classical.not_imp, isLeap, decide_eq_true_eq] at h
  omega

/-- The calendar ends with a minute. -/
theorem lastSecond_emod : Calendar.lastSecond % 60 = 59 := by decide

/-- The instant that the text of an instant is read as: a leap second within a minute gives way to
the second after it. -/
def asWritten (i : Instant) : Instant :=
  if h : i.EndsMinute then i
  else
    { second := i.second + 1
      nano := i.nano - nanosPerSecond
      second_lower := Int.le_trans i.second_lower (by omega)
      second_upper := by
        have := second_lt_of_not_endsMinute h
        have := lastSecond_emod
        have := i.second_upper
        omega
      nano_lower := Int.sub_nonneg_of_le (second_lt_of_not_endsMinute h).2
      nano_upper := Int.lt_trans (Int.sub_lt_self _ (by decide)) i.nano_upper }

variable {i : Instant}

/-- The last second of a minute is written as it is. -/
theorem asWritten_of_endsMinute (h : i.EndsMinute) : i.asWritten = i := dif_pos h

/-- Where there is no text for an instant, its text is of another second. -/
theorem second_asWritten_eq_iff : i.asWritten.second = i.second ↔ i.EndsMinute := by
  unfold asWritten
  split
  · next h => exact iff_of_true rfl h
  · next h => exact iff_of_false (Int.ne_of_gt (Int.lt_succ i.second)) h

/-- Only other seconds with nanoseconds beyond them are not. -/
theorem asWritten_eq_self_iff : i.asWritten = i ↔ i.EndsMinute :=
  ⟨fun h => second_asWritten_eq_iff.mp (congrArg second h), asWritten_of_endsMinute⟩

/-- The leap second is over in the second after it. -/
theorem endsMinute_asWritten (i : Instant) : i.asWritten.EndsMinute := by
  unfold asWritten
  split
  · assumption
  · intro hleap
    have := of_decide_eq_true hleap
    have := i.nano_upper
    simp only [nanosPerSecond] at *
    omega

end Instant

namespace DateFormat

open Instant

/-- The next second within a minute is written with the same date, hour and minute, and as the same
second of the minute as the leap second before it. -/
theorem clock_asWritten (i : Instant) : i.asWritten.day = i.day ∧
    hourOf i.asWritten = hourOf i ∧ minuteOf i.asWritten = minuteOf i ∧
      secondOf i.asWritten = secondOf i ∧ nanosecondOf i.asWritten = nanosecondOf i := by
  unfold asWritten
  split
  · exact ⟨rfl, rfl, rfl, rfl, rfl⟩
  · next h =>
    have := second_lt_of_not_endsMinute h
    have := i.nano_upper
    simp only [day, hourOf, minuteOf, secondOf, nanosecondOf, secondOfDay, secondsPerDay,
      nanosPerSecond] at *
    omega

theorem isoText_asWritten (fraction : Int → List Char) (i : Instant) :
    isoText fraction i.asWritten = isoText fraction i := by
  obtain ⟨hday, hhour, hminute, hsecond, hnano⟩ := clock_asWritten i
  rw [isoText, isoText, hday, hhour, hminute, hsecond, hnano]

theorem renderMillis_asWritten (i : Instant) : renderMillis i.asWritten = renderMillis i := by
  rw [renderMillis, renderMillis, isoText_asWritten]

theorem renderExact_asWritten (i : Instant) : renderExact i.asWritten = renderExact i := by
  rw [renderExact, renderExact, isoText_asWritten]

end DateFormat

end RecordExpr
