/-!
# The calendar

Days are counted from 1 January 1970, backwards as well, and years run on in the same way in both
directions, so that the year before 1 is the year 0. The functions here go between such a day number
and its year and day of the year, its month and day, its weekday and its week.
-/

namespace RecordExpr.Calendar

/-! ### Years -/

/-- The first and the last year of the calendar in use. -/
def firstYear : Int := -262143

@[inherit_doc firstYear]
def lastYear : Int := 262142

def isLeap (year : Int) : Bool := year % 4 == 0 && (year % 100 != 0 || year % 400 == 0)

def yearLength (year : Int) : Int := if isLeap year then 366 else 365

/-- Days between 1 January of the year 1 and 1 January 1970. -/
def epochDay : Int := 719162

/-- The number of the first day of a year. -/
def yearStart (year : Int) : Int :=
  365 * (year - 1) + (year - 1) / 4 - (year - 1) / 100 + (year - 1) / 400 - epochDay

/-- The year of a day, and which day of the year it is, counted from one. -/
def yearAndOrdinal (day : Int) : Int × Int :=
  let n := day + epochDay
  let inCycle := n % 146097
  let century := min (inCycle / 36524) 3
  let inCentury := inCycle - 36524 * century
  let inLeapCycle := inCentury % 1461
  let year := min (inLeapCycle / 365) 3
  (400 * (n / 146097) + 100 * century + 4 * (inCentury / 1461) + year + 1,
    inLeapCycle - 365 * year + 1)

def yearOf (day : Int) : Int := (yearAndOrdinal day).1

def ordinalOf (day : Int) : Int := (yearAndOrdinal day).2

/-- The day with a given year and day of the year. -/
def ofOrdinal? (year ordinal : Int) : Option Int :=
  if firstYear ≤ year ∧ year ≤ lastYear ∧ 1 ≤ ordinal ∧ ordinal ≤ yearLength year then
    some (yearStart year + ordinal - 1)
  else none

/-- The first and the last day of the calendar in use. -/
def firstDay : Int := yearStart firstYear

@[inherit_doc firstDay]
def lastDay : Int := yearStart (lastYear + 1) - 1

/-! ### Months -/

def monthLengths (year : Int) : List Int :=
  [31, if isLeap year then 29 else 28, 31, 30, 31, 30, 31, 31, 30, 31, 30, 31]

/-- The month and the day in it, for the `day`-th day from the beginning of `month` on. -/
def monthAndDay (month day : Int) : List Int → Int × Int
  | [] => (month, day)
  | length :: lengths =>
    if day ≤ length then (month, day) else monthAndDay (month + 1) (day - length) lengths

/-- The year, the month and the day of the month. -/
def civil (day : Int) : Int × Int × Int :=
  let (year, ordinal) := yearAndOrdinal day
  (year, monthAndDay 1 ordinal (monthLengths year))

def monthOf (day : Int) : Int := (civil day).2.1

def dayOfMonth (day : Int) : Int := (civil day).2.2

def quarterOf (day : Int) : Int := (monthOf day - 1) / 3 + 1

/-- The day with a given year, month and day of the month. -/
def ofCivil? (year month day : Int) : Option Int :=
  if 1 ≤ month ∧ month ≤ 12 ∧ 1 ≤ day then
    match (monthLengths year).drop (month.toNat - 1) with
    | length :: _ =>
      if day ≤ length then
        ofOrdinal? year (((monthLengths year).take (month.toNat - 1)).foldr (· + ·) day)
      else none
    | [] => none
  else none

/-! ### Weeks -/

/-- The day of the week, where Monday is zero. -/
def weekday (day : Int) : Int := (day + 3) % 7

/-- How many days after the last `first` a weekday comes. -/
def daysSince (weekday first : Int) : Int := (weekday - first) % 7

/-- Monday among the days of the week. -/
def monday : Int := 0

/-- Sunday among the days of the week. -/
def sunday : Int := 6

/-- The week of the year, where the first `first` of the year begins week one. -/
def weekFrom (first day : Int) : Int := (ordinalOf day - daysSince (weekday day) first + 6) / 7

/-- The day in a given week of a year that begins weeks with `first`. -/
def ofWeekFrom? (first year week weekday' : Int) : Option Int := do
  let start ← ofOrdinal? year 1
  ofOrdinal? year
    (1 + daysSince first (weekday start) + (week - 1) * 7 + daysSince weekday' first)

/-- The year and the week that a day belongs to, where weeks begin with Monday and belong to the
year in which their Thursday lies. -/
def isoWeek (day : Int) : Int × Int :=
  let (year, ordinal) := yearAndOrdinal (day - weekday day + 3)
  (year, (ordinal - 1) / 7 + 1)

/-- The day with a given weekday in a week that belongs to a year. -/
def ofIsoWeek? (year week weekday' : Int) : Option Int :=
  let fourth := yearStart year + 3
  let day := fourth - weekday fourth + 7 * (week - 1) + weekday'
  if isoWeek day = (year, week) ∧ firstDay ≤ day ∧ day ≤ lastDay then some day else none

/-! ### Names -/

def monthNames : List String :=
  ["January", "February", "March", "April", "May", "June", "July", "August", "September",
    "October", "November", "December"]

/-- The weekdays from Monday on. -/
def weekdayNames : List String :=
  ["Monday", "Tuesday", "Wednesday", "Thursday", "Friday", "Saturday", "Sunday"]

end RecordExpr.Calendar
