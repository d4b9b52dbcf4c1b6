import Mathlib.Algebra.Ring.Int.Defs
import RecordExpr.Date.Calendar

/-!
# Days and their names in the calendar

The year and the day of the year of a day lead back to it (`ofOrdinal?_yearOf`), and so do the year,
the month and the day of the month (`ofCivil?_civil`), for every day of a year that the calendar
has.

The year and the day of the year come from a decomposition in mixed radix, by cycles of 400, 100 and
4 years (`exists_yearAndOrdinal`); the month comes from the lengths of the months before it
(`exists_monthAndDay`).
-/

namespace RecordExpr.Calendar

variable {day year : Int}

/-! ### Years -/

/-- Where a day falls in the cycles of the calendar: 400 years, centuries, four years with a leap
year at their end, and the year. All of these are counted from zero. -/
structure FallsOn (day cycle century leapCycle year before : Int) : Prop where
  sum_eq : day + epochDay =
    146097 * cycle + 36524 * century + 1461 * leapCycle + 365 * year + before
  century_bounds : 0 ≤ century ∧ century ≤ 3
  leapCycle_bounds : 0 ≤ leapCycle ∧ leapCycle ≤ 24
  year_bounds : 0 ≤ year ∧ year ≤ 3
  before_lower : 0 ≤ before
  /-- A 366th day needs the last year of a leap cycle, which is not the last year of a century
  unless that is the last year of a cycle. -/
  before_upper : before ≤ 364 ∨ before = 365 ∧ year = 3 ∧ (leapCycle ≤ 23 ∨ century = 3)

/-- Each day falls on a place in a cycle of 400 years, which names its year. -/
theorem exists_yearAndOrdinal (day : Int) : ∃ cycle century leapCycle year before,
    FallsOn day cycle century leapCycle year before ∧
      yearAndOrdinal day =
        (400 * cycle + 100 * century + 4 * leapCycle + year + 1, before + 1) := by
  let inCycle := (day + epochDay) % 146097
  let century := min (inCycle / 36524) 3
  let inCentury := inCycle - 36524 * century
  let inLeapCycle := inCentury % 1461
  let year := min (inLeapCycle / 365) 3
  refine ⟨(day + epochDay) / 146097, century, inCentury / 1461, year, inLeapCycle - 365 * year,
    ⟨?_, ?_, ?_, ?_, ?_, ?_⟩, rfl⟩ <;> omega

/-- The rule for leap years of the Gregorian calendar. -/
theorem isLeap_iff : isLeap year = true ↔ year % 4 = 0 ∧ (year % 100 ≠ 0 ∨ year % 400 = 0) := by
  simp [isLeap]

/-- A day is the day of its year that it is said to be. -/
theorem yearStart_yearOf_add (day : Int) : yearStart (yearOf day) + ordinalOf day - 1 = day := by
  obtain ⟨cycle, century, leapCycle, year, before, ⟨hsum, _, _, _, _, _⟩, heq⟩ :=
    exists_yearAndOrdinal day
  rw [yearOf, ordinalOf, heq, yearStart]
  omega

/-- The day of a year is within the length of that year. -/
theorem ordinalOf_bounds (day : Int) :
    1 ≤ ordinalOf day ∧ ordinalOf day ≤ yearLength (yearOf day) := by
  obtain ⟨cycle, century, leapCycle, year, before, ⟨hsum, _, _, _, _, _⟩, heq⟩ :=
    exists_yearAndOrdinal day
  rw [yearOf, ordinalOf, heq, yearLength]
  split
  · omega
  · next h =>
    rw [isLeap_iff] at h
    omega

/-- A year and a day in it name the day again, within the calendar. -/
theorem ofOrdinal?_yearOf (hfirst : firstYear ≤ yearOf day) (hlast : yearOf day ≤ lastYear) :
    ofOrdinal? (yearOf day) (ordinalOf day) = some day := by
  rw [ofOrdinal?, if_pos ⟨hfirst, hlast, ordinalOf_bounds day⟩, yearStart_yearOf_add]

/-! ### Months -/

/-- The months of a year fill it. -/
theorem sum_monthLengths (year : Int) : (monthLengths year).sum = yearLength year := by
  cases h : isLeap year <;> simp [monthLengths, yearLength, h]

theorem length_monthLengths (year : Int) : (monthLengths year).length = 12 := rfl

theorem le_of_mem_monthLengths {length : Int} (h : length ∈ monthLengths year) : length ≤ 31 := by
  unfold monthLengths at h
  split at h <;> revert length <;> decide

/-- The month of a day is the first one that reaches up to it. -/
theorem exists_monthAndDay {lengths : List Int} (hlower : 1 ≤ day) (hupper : day ≤ lengths.sum)
    (month : Int) : ∃ before length after, lengths = before ++ length :: after ∧
      monthAndDay month day lengths = (month + before.length, day - before.sum) ∧
      1 ≤ day - before.sum ∧ day - before.sum ≤ length := by
  induction lengths generalizing day month with
  | nil =>
    rw [List.sum_nil] at hupper
    omega
  | cons length lengths ih =>
    rw [List.sum_cons] at hupper
    by_cases hday : day ≤ length
    · exact ⟨[], length, lengths, rfl, by simp [monthAndDay, hday], by simpa using hlower,
        by simpa using hday⟩
    · -- the day is past this month
      obtain ⟨before, length', after, rfl, heq, hdays⟩ :=
        ih (show 1 ≤ day - length by omega) (by omega) (month + 1)
      refine ⟨length :: before, length', after, rfl, ?_, ?_⟩
      · rw [monthAndDay, if_neg hday, heq, List.length_cons, List.sum_cons, Prod.mk.injEq]
        omega
      · rw [List.sum_cons]
        omega

theorem foldr_add_eq (lengths : List Int) (day : Int) :
    lengths.foldr (· + ·) day = lengths.sum + day := by
  induction lengths with
  | nil => simp
  | cons length lengths ih => rw [List.foldr_cons, ih, List.sum_cons, Int.add_assoc]

/-- A day falls in one of the months, after the days of those before it. -/
theorem exists_civil (day : Int) : ∃ before length after,
    monthLengths (yearOf day) = before ++ length :: after ∧
      monthOf day = 1 + before.length ∧ dayOfMonth day = ordinalOf day - before.sum ∧
      1 ≤ dayOfMonth day ∧ dayOfMonth day ≤ length := by
  obtain ⟨hlower, hupper⟩ := ordinalOf_bounds day
  rw [← sum_monthLengths] at hupper
  obtain ⟨before, length, after, hlengths, heq, hdays⟩ := exists_monthAndDay hlower hupper 1
  have hcivil : civil day = (yearOf day, 1 + (before.length : Int), ordinalOf day - before.sum) :=
    congrArg (Prod.mk (yearOf day)) heq
  rw [monthOf, dayOfMonth, hcivil]
  exact ⟨before, length, after, hlengths, rfl, rfl, hdays⟩

theorem civil_eq (day : Int) : civil day = (yearOf day, monthOf day, dayOfMonth day) := rfl

theorem monthOf_bounds (day : Int) : 1 ≤ monthOf day ∧ monthOf day ≤ 12 := by
  obtain ⟨before, length, after, hlengths, hmonth, -⟩ := exists_civil day
  have hlength := congrArg List.length hlengths
  rw [length_monthLengths, List.length_append, List.length_cons] at hlength
  omega

theorem dayOfMonth_bounds (day : Int) : 1 ≤ dayOfMonth day ∧ dayOfMonth day ≤ 31 := by
  obtain ⟨before, length, after, hlengths, -, -, hlower, hupper⟩ := exists_civil day
  have hmem : length ∈ monthLengths (yearOf day) := by rw [hlengths]; simp
  exact ⟨hlower, Int.le_trans hupper (le_of_mem_monthLengths hmem)⟩

/-- A year, a month and a day in it name the day again, within the calendar. -/
theorem ofCivil?_civil (hfirst : firstYear ≤ yearOf day) (hlast : yearOf day ≤ lastYear) :
    ofCivil? (yearOf day) (monthOf day) (dayOfMonth day) = some day := by
  obtain ⟨hlower, hupper⟩ := monthOf_bounds day
  obtain ⟨before, length, after, hlengths, hmonth, hday, hdays⟩ := exists_civil day
  have hbefore : (monthOf day).toNat - 1 = before.length := by omega
  rw [ofCivil?, if_pos ⟨hlower, hupper, hdays.1⟩, hbefore, hlengths, List.drop_left,
    List.take_left, foldr_add_eq]
  dsimp only
  rw [if_pos hdays.2, hday, Int.add_comm, Int.sub_add_cancel, ofOrdinal?_yearOf hfirst hlast]

end RecordExpr.Calendar
