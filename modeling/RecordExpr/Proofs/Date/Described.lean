import RecordExpr.Date.Parts
import RecordExpr.Proofs.Date.Civil
import RecordExpr.Proofs.Date.Clock

/-!
# Parts that describe an instant

An instant is written as its date and its time of day in universal time, with nanoseconds or without
them (`partOf?`). Parts that say just this lead back to it: those of the date fix the day
(`Parts.Describe.day_eq`), those of the time of day fix the second and the nanoseconds
(`Parts.Describe.timeOfDay_eq`), and both together fix the instant (`Parts.Describe.instant_eq`).
For the time of day a leap second has to end a minute (`Instant.EndsMinute`).
-/

namespace RecordExpr

open Calendar

/-- The calendar has the year of every instant. -/
theorem Instant.yearOf_day_bounds (i : Instant) :
    firstYear ≤ yearOf i.day ∧ yearOf i.day ≤ lastYear := by
  obtain ⟨cycle, century, leapCycle, year, before, ⟨hsum, _, _, _, _, _⟩, heq⟩ :=
    exists_yearAndOrdinal i.day
  have := i.second_lower
  have := i.second_upper
  rw [yearOf, heq]
  simp only [Instant.day, firstSecond, lastSecond, firstDay, lastDay, yearStart, secondsPerDay,
    epochDay, firstYear, lastYear] at *
  omega

namespace DateFormat

variable {ps : Parts} {i j : Instant} {p : Part} {v : Int} {nano : Option Int}

/-- What is written of an instant, with some nanoseconds or without. -/
def partOf? (i : Instant) (nano : Option Int) : Part → Option Int
  | .year => some (yearOf i.day)
  | .month => some (monthOf i.day)
  | .day => some (dayOfMonth i.day)
  | .half => some (hourOf i / 12)
  | .hourInHalf => some (hourOf i % 12)
  | .minute => some (minuteOf i)
  | .second => some (secondOf i)
  | .nanosecond => nano
  | .offset => some 0
  | _ => none

namespace Parts

/-- The parts are those that are written of an instant, and no others. -/
def Describe (ps : Parts) (i : Instant) (nano : Option Int) : Prop :=
  ∀ p, ps.get? p = partOf? i nano p

theorem allows_iff : ps.allows p v = true ↔ ps.get? p = none ∨ ps.get? p = some v := by
  rw [allows]
  cases ps.get? p <;> simp

/-! ### The day -/

/-- A year without its century, a month and a day of the month come before all else. -/
theorem proposedDay_eq_ok {year month dayOfMonth day : Int} (hyear : ps.get? .year = some year)
    (hcentury : ps.get? .century = none) (hrest : ps.get? .yearOfCentury = none)
    (hweekYear : ps.get? .weekYear = none) (hweekRest : ps.get? .weekYearOfCentury = none)
    (hmonth : ps.get? .month = some month) (hday : ps.get? .day = some dayOfMonth)
    (h : ofCivil? year month dayOfMonth = some day) : ps.proposedDay = .ok day := by
  unfold proposedDay
  rw [hyear, hcentury, hrest, hweekYear, hweekRest, hmonth, hday]
  simp only [resolveYear, h, bind, Except.bind]

namespace Describe

variable (h : ps.Describe i nano)

include h

theorem allowsDay_eq : ps.allowsDay i.day = true := by
  -- every other part is absent, so there are three that could disagree
  have hcentury : ps.allowsCentury (yearOf i.day) = true := by
    unfold Parts.allowsCentury
    split
    · rw [Bool.and_eq_true, allows_iff, allows_iff]
      exact ⟨.inl (h _), .inl (h _)⟩
    · rw [h, h]
      rfl
  have hcivil : ps.allowsCivil i.day = true := by
    simp only [Parts.allowsCivil, civil_eq, Bool.and_eq_true, allows_iff]
    exact ⟨⟨⟨.inr (h _), hcentury⟩, .inr (h _)⟩, .inr (h _)⟩
  have hweek : ps.allowsIsoWeek i.day = true := by
    simp only [Parts.allowsIsoWeek, Bool.and_eq_true, allows_iff]
    refine ⟨⟨⟨.inl (h _), ?_⟩, .inl (h _)⟩, .inl (h _)⟩
    split
    · exact allows_iff.mpr (.inl (h _))
    · rw [h]
      rfl
  simp only [Parts.allowsDay, Parts.allowsOrdinal, Bool.and_eq_true, allows_iff]
  exact ⟨⟨⟨hcivil, hweek⟩, ⟨.inl (h _), .inl (h _)⟩, .inl (h _)⟩, .inl (h _)⟩

/-- The parts of an instant name its day. -/
theorem day_eq : ps.day = .ok i.day := by
  obtain ⟨hfirst, hlast⟩ := i.yearOf_day_bounds
  have hproposed : ps.proposedDay = .ok i.day :=
    proposedDay_eq_ok (h _) (h _) (h _) (h _) (h _) (h _) (h _) (ofCivil?_civil hfirst hlast)
  rw [Parts.day, hproposed]
  exact if_pos h.allowsDay_eq

end Describe

/-! ### The time of day -/

/-- The time of day of parts that have a second, where second 60 prolongs the one before. -/
theorem timeOfDay_eq_ok {half hour minute second : Int} (hhalf : ps.get? .half = some half)
    (hhour : ps.get? .hourInHalf = some hour) (hminute : ps.get? .minute = some minute)
    (hsecond : ps.get? .second = some second) (hnano : ps.get? .nanosecond = nano) :
    ps.timeOfDay = .ok (
      if second = 60 then
        ((12 * half + hour) * 3600 + minute * 60 + 59, nano.getD 0 + nanosPerSecond)
      else ((12 * half + hour) * 3600 + minute * 60 + second, nano.getD 0)) := by
  unfold timeOfDay required
  rw [hhalf, hhour, hminute, hsecond, hnano]
  simp only [bind, Except.bind, pure, Except.pure]
  split
  · next h => rw [if_pos (Option.some.inj h)]
  · next h => rw [if_neg fun heq => h (congrArg some heq), Option.getD_some]

/-- Second 60 is written for a leap second at the end of a minute. -/
theorem secondOf_cases (hclock : i.EndsMinute) :
    secondOf i = 60 ∧ i.secondOfDay % 60 = 59 ∧ i.nano / nanosPerSecond = 1 ∨
      secondOf i = i.secondOfDay % 60 ∧ i.nano / nanosPerSecond = 0 := by
  have := i.nano_lower
  have := i.nano_upper
  simp only [Instant.EndsMinute, Instant.isLeap, decide_eq_true_eq, secondOf, Instant.secondOfDay,
    secondsPerDay, nanosPerSecond] at *
  omega

namespace Describe

variable (h : ps.Describe i nano)

include h

/-- In a leap second the nanoseconds that are written go on from zero. -/
theorem timeOfDay_eq (hclock : i.EndsMinute) : ps.timeOfDay =
    .ok (i.secondOfDay, nano.getD 0 + i.nano / nanosPerSecond * nanosPerSecond) := by
  have hstart : (12 * (hourOf i / 12) + hourOf i % 12) * 3600 + minuteOf i * 60 =
      i.secondOfDay - i.secondOfDay % 60 := by
    simp only [hourOf, minuteOf, Instant.secondOfDay, secondsPerDay]
    omega
  rw [timeOfDay_eq_ok (h _) (h _) (h _) (h _) (h _), hstart]
  rcases secondOf_cases hclock with ⟨hsecond, hlast, hleap⟩ | ⟨hsecond, hleap⟩
  · rw [if_pos hsecond, hleap, ← hlast, Int.sub_add_cancel, Int.one_mul]
    rfl
  · have hne : secondOf i ≠ 60 := by omega
    rw [if_neg hne, hleap, hsecond, Int.sub_add_cancel, Int.zero_mul, Int.add_zero]
    rfl

/-! ### The instant -/

/-- The parts make an instant in the same second, with the nanoseconds that are written. -/
theorem instant_eq (hclock : i.EndsMinute) (hsecond : j.second = i.second)
    (hnano : j.nano = nano.getD 0 + i.nano / nanosPerSecond * nanosPerSecond) :
    ps.instant = .ok j := by
  have hlocal : ps.localTime 0 = .ok (j.second, j.nano) := by
    have hsum : i.day * secondsPerDay + i.secondOfDay = i.second := by
      simp only [Instant.day, Instant.secondOfDay, secondsPerDay]
      omega
    rw [localTime, h.day_eq, h.timeOfDay_eq hclock, h .timestamp, hsecond, hnano, ← hsum]
    rfl
  have hparts : Instant.ofParts? (j.second - 0) j.nano = some j :=
    Instant.ofParts?_eq_some_iff.mpr ⟨(Int.sub_zero _).symm, rfl⟩
  unfold Parts.instant
  rw [h .offset]
  show (ps.localTime 0).bind _ = _
  rw [hlocal]
  simp only [Except.bind, hparts]
  rfl

end Describe

end Parts

end DateFormat

end RecordExpr
