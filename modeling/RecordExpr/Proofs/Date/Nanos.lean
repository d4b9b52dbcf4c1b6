import RecordExpr.Date.Instant

/-!
# Instants as numbers

Outside of leap seconds an instant is a number of nanoseconds since the beginning of 1970
(`Instant.nanos`), and the numbers of instants are those of the calendar
(`Instant.exists_nanos_iff`). What is done to such instants is done to their numbers:

* `Instant.addMillis?_eq_some_iff`, `Instant.addMillis?_eq_none_iff`: the instant some milliseconds
  later is the one with the sum, if the calendar reaches that far;
* `Instant.toInt_millisSince`: the distance is the difference, cut off toward zero;
* `Instant.ofMillis?_eq_some_iff`, `Instant.ofMillis?_eq_none_iff`: the instant some milliseconds
  after the beginning of 1970 is the one with that many of them, if the calendar reaches that far;
* `Instant.toInt_millis`: the milliseconds of an instant are those in its number, rounded down;
* `Instant.compare_eq_gt_iff`, `Instant.compare_eq_lt_iff`: the later instant is the one with the
  larger number.
-/

namespace RecordExpr.Instant

variable {i j : Instant} {n t : Int}

/-- Nanoseconds since the beginning of 1970. -/
def nanos (i : Instant) : Int := i.second * nanosPerSecond + i.nano

/-- Whether some nanoseconds after the beginning of 1970 is still, or already, a day of the
calendar. -/
def InCalendar (t : Int) : Prop :=
  Calendar.firstDay * secondsPerDay * nanosPerSecond ≤ t ∧
    t < (Calendar.lastDay + 1) * secondsPerDay * nanosPerSecond

instance (t : Int) : Decidable (InCalendar t) := inferInstanceAs (Decidable (_ ∧ _))

/-- Nanoseconds beyond a second are those of a leap second. -/
theorem isLeap_eq_false_iff : i.isLeap = false ↔ i.nano < 1000000000 := by
  rw [isLeap, decide_eq_false_iff_not, Int.not_le]

theorem nanos_eq (i : Instant) : i.nanos = i.second * 1000000000 + i.nano := rfl

/-- An instant that is no leap second is known by its nanoseconds since 1970. -/
theorem ofParts?_div_mod (t : Int) :
    ofParts? (t / 1000000000) (t % 1000000000) = some i ↔ i.isLeap = false ∧ i.nanos = t := by
  rw [ofParts?_eq_some_iff, isLeap_eq_false_iff, nanos_eq]
  have := i.nano_lower
  omega

/-- The calendar ends with whole seconds. -/
theorem inCalendar_iff : InCalendar t ↔
    Calendar.firstSecond ≤ t / 1000000000 ∧ t / 1000000000 ≤ Calendar.lastSecond := by
  rw [InCalendar, Calendar.firstSecond, Calendar.lastSecond, nanosPerSecond]
  omega

/-- Instants are in the calendar by construction. -/
theorem inCalendar_nanos (hi : i.isLeap = false) : InCalendar i.nanos := by
  rw [isLeap_eq_false_iff] at hi
  rw [inCalendar_iff, nanos_eq]
  have := i.second_lower
  have := i.second_upper
  have := i.nano_lower
  omega

/-- The numbers of the calendar are those of instants. -/
theorem exists_nanos_iff : (∃ i : Instant, i.isLeap = false ∧ i.nanos = t) ↔ InCalendar t := by
  constructor
  · rintro ⟨i, hi, rfl⟩
    exact inCalendar_nanos hi
  · rw [inCalendar_iff]
    rintro ⟨hlower, hupper⟩
    have hnano : t % 1000000000 < 1000000000 := Int.emod_lt_of_pos _ (by decide)
    let i : Instant := ⟨t / 1000000000, t % 1000000000, hlower, hupper,
      Int.emod_nonneg _ (by decide), Int.lt_trans hnano (by decide)⟩
    exact ⟨i, (ofParts?_div_mod t).mp (ofParts?_eq_some_iff.mpr ⟨rfl, rfl⟩)⟩

/-! ### Milliseconds -/

/-- Milliseconds are added exactly, where the sum is in the calendar. -/
theorem addMillis?_eq_some_iff (hi : i.isLeap = false) :
    i.addMillis? n = some j ↔ j.isLeap = false ∧ j.nanos = i.nanos + n * nanosPerMilli := by
  have hadd : i.addMillis? n =
      ofParts? ((i.nanos + n * nanosPerMilli) / 1000000000)
        ((i.nanos + n * nanosPerMilli) % 1000000000) := by
    simp only [addMillis?, hi, Bool.false_eq_true, false_and, if_false, nanos, Int.add_assoc]
  rw [hadd, ofParts?_div_mod]

/-- They are refused only for the end of the calendar. -/
theorem addMillis?_eq_none_iff (hi : i.isLeap = false) :
    i.addMillis? n = none ↔ ¬InCalendar (i.nanos + n * nanosPerMilli) := by
  rw [← exists_nanos_iff, Option.eq_none_iff_forall_ne_some]
  simp only [ne_eq, addMillis?_eq_some_iff hi, not_exists]

/-- Adding milliseconds and taking them off again leads back. -/
theorem addMillis?_neg (hi : i.isLeap = false) (h : i.addMillis? n = some j) :
    j.addMillis? (-n) = some i := by
  obtain ⟨hj, hnanos⟩ := (addMillis?_eq_some_iff hi).mp h
  rw [addMillis?_eq_some_iff hj, hnanos, Int.neg_mul]
  exact ⟨hi, by omega⟩

/-- Without leap seconds, time between instants is a difference. -/
theorem nanosSince_eq (hi : i.isLeap = false) (hj : j.isLeap = false) :
    i.nanosSince j = i.nanos - j.nanos := by
  have hleap : leapCorrection i j = 0 := by simp [leapCorrection, hi, hj]
  rw [nanosSince, hleap, nanos_eq, nanos_eq, nanosPerSecond]
  omega

/-- It is cut toward zero to milliseconds, which always fit. -/
theorem toInt_millisSince (hi : i.isLeap = false) (hj : j.isLeap = false) :
    (i.millisSince j).toInt = (i.nanos - j.nanos).tdiv nanosPerMilli := by
  rw [← nanosSince_eq hi hj]
  rfl

/-- What was added is the time in between. -/
theorem toInt_millisSince_of_addMillis? (hi : i.isLeap = false) (h : i.addMillis? n = some j) :
    (j.millisSince i).toInt = n := by
  obtain ⟨hj, hnanos⟩ := (addMillis?_eq_some_iff hi).mp h
  have hdiff : j.nanos - i.nanos = n * nanosPerMilli := by omega
  rw [toInt_millisSince hj hi, hdiff, Int.mul_tdiv_cancel _ (by decide)]

/-- Cut toward zero, it changes its sign with its sides. -/
theorem toInt_millisSince_swap (hi : i.isLeap = false) (hj : j.isLeap = false) :
    (j.millisSince i).toInt = -(i.millisSince j).toInt := by
  rw [toInt_millisSince hj hi, toInt_millisSince hi hj, ← Int.neg_tdiv, Int.neg_sub]

/-! ### Milliseconds since 1970 -/

/-- Milliseconds since 1970 name an instant exactly. -/
theorem ofMillis?_eq_some_iff :
    ofMillis? n = some i ↔ i.isLeap = false ∧ i.nanos = n * nanosPerMilli := by
  rw [ofMillis?, ofParts?_eq_some_iff, isLeap_eq_false_iff, nanos_eq]
  have := i.nano_lower
  simp only [nanosPerMilli]
  omega

theorem ofMillis?_eq_none_iff : ofMillis? n = none ↔ ¬InCalendar (n * nanosPerMilli) := by
  rw [← exists_nanos_iff, Option.eq_none_iff_forall_ne_some]
  simp only [ne_eq, ofMillis?_eq_some_iff, not_exists]

/-- In the other direction they are rounded down. -/
theorem toInt_millis (i : Instant) : i.millis.toInt = i.nanos / nanosPerMilli := by
  have hmillis : i.millis.toInt = i.second * 1000 + i.nano / nanosPerMilli := rfl
  have := i.nano_lower
  rw [hmillis, nanos_eq]
  simp only [nanosPerMilli]
  omega

/-- Milliseconds are counted from the beginning of a second, where the calendar begins as well. -/
theorem inCalendar_millis (hi : i.isLeap = false) :
    InCalendar (i.nanos / nanosPerMilli * nanosPerMilli) := by
  have h : InCalendar i.nanos := inCalendar_nanos hi
  rw [inCalendar_iff] at h ⊢
  simp only [nanosPerMilli]
  omega

/-! ### Order -/

/-- Without leap seconds, order is that of the nanoseconds. -/
theorem compare_eq_lt_iff (hi : i.isLeap = false) (hj : j.isLeap = false) :
    i.compare j = .lt ↔ i.nanos < j.nanos := by
  rw [isLeap_eq_false_iff] at hi hj
  have := i.nano_lower
  have := j.nano_lower
  rw [compare, Ordering.then_eq_lt, Int.compare_eq_lt, Int.compare_eq_lt, Int.compare_eq_eq,
    nanos_eq, nanos_eq]
  omega

theorem compare_eq_gt_iff (hi : i.isLeap = false) (hj : j.isLeap = false) :
    i.compare j = .gt ↔ j.nanos < i.nanos := by
  rw [isLeap_eq_false_iff] at hi hj
  have := i.nano_lower
  have := j.nano_lower
  rw [compare, Ordering.then_eq_gt, Int.compare_eq_gt, Int.compare_eq_gt, Int.compare_eq_eq,
    nanos_eq, nanos_eq]
  omega

/-- The distance from an earlier instant is not negative. -/
theorem toInt_millisSince_nonneg (hi : i.isLeap = false) (hj : j.isLeap = false)
    (h : i.compare j = .gt) : 0 ≤ (i.millisSince j).toInt := by
  have hlt : j.nanos < i.nanos := (compare_eq_gt_iff hi hj).mp h
  rw [toInt_millisSince hi hj]
  exact Int.tdiv_nonneg (by omega) (by decide)

end RecordExpr.Instant
