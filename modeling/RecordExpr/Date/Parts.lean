import RecordExpr.Date.Instant

/-!
# The parts of a date

A date is read part by part, in any order and often with more parts than are needed. Each part has a
range, and no part may be given two values. Afterwards the parts are put together: enough of them
must be there to fix the date or the time, and all of the others must agree with what is fixed.

The main definitions are `Parts.day`, `Parts.timeOfDay`, `Parts.localTime` and `Parts.instant`.
-/

namespace RecordExpr.DateFormat

open Calendar

/-- A part of a date. The hour of the day has two: the half of the day and the hour in it. -/
inductive Part
  | year
  | century
  | yearOfCentury
  | weekYear
  | weekYearOfCentury
  | quarter
  | month
  | day
  | weekFromSunday
  | weekFromMonday
  | isoWeek
  /-- from zero for Monday -/
  | weekday
  | dayOfYear
  | half
  | hourInHalf
  | minute
  | second
  | nanosecond
  | timestamp
  /-- seconds that local time is ahead of universal time -/
  | offset
  deriving DecidableEq

/-- The least and the greatest value of a part. -/
def Part.range : Part → Int × Int
  | .year | .weekYear | .offset => (-0x80000000, 0x7FFFFFFF)
  | .century => (0, 0x7FFFFFFF)
  | .yearOfCentury | .weekYearOfCentury => (0, 99)
  | .quarter => (1, 4)
  | .month => (1, 12)
  | .day => (1, 31)
  | .weekFromSunday | .weekFromMonday => (0, 53)
  | .isoWeek => (1, 53)
  | .weekday => (0, 6)
  | .dayOfYear => (1, 366)
  | .half => (0, 1)
  | .hourInHalf => (0, 11)
  | .minute => (0, 59)
  | .second => (0, 60)
  | .nanosecond => (0, 999999999)
  | .timestamp => (-0x8000000000000000, 0x7FFFFFFFFFFFFFFF)

/-- Why parts do not make a date or a time. -/
inductive Misfit
  /-- more parts are needed -/
  | incomplete
  /-- the parts contradict each other or the calendar -/
  | impossible
  deriving DecidableEq

/-- The parts that have been read. -/
abbrev Parts := List (Part × Int)

namespace Parts

def get? (ps : Parts) (p : Part) : Option Int := ps.lookup p

/-- The parts with one more; `none` if its value is out of range or it has another value. -/
def put? (ps : Parts) (p : Part) (v : Int) : Option Parts :=
  if v < p.range.1 ∨ p.range.2 < v then none
  else
    match ps.get? p with
    | none => some ((p, v) :: ps)
    | some w => if v = w then some ps else none

/-- The parts with an hour of the day. -/
def putHour? (ps : Parts) (hour : Int) : Option Parts := do
  (← ps.put? .half (hour / 12)).put? .hourInHalf (hour % 12)

/-- Whether a part is missing or has a value. -/
def allows (ps : Parts) (p : Part) (v : Int) : Bool := (ps.get? p).all (· == v)

/-! ### The day -/

/-- The year from a year, its century and its number in the century. Of the numbers alone, those
from 70 on belong to the 20th century. A year before 0 has no century. -/
def resolveYear (year hundreds rest : Option Int) : Except Misfit (Option Int) :=
  match year, hundreds, rest with
  | y, none, none => .ok y
  | some y, q, r =>
    if 0 ≤ y ∧ q.all (· == y / 100) ∧ r.all (· == y % 100) then .ok (some y)
    else .error .impossible
  | none, some q, some r =>
    if 100 * q + r ≤ 0x7FFFFFFF then .ok (some (100 * q + r)) else .error .impossible
  | none, none, some r => .ok (some (if r < 70 then 2000 + r else 1900 + r))
  | none, some _, none => .error .incomplete

/-- Whether the century and the number in it, where they are given, are those of a year. -/
def allowsCentury (ps : Parts) (year : Int) : Bool :=
  if 0 ≤ year then ps.allows .century (year / 100) && ps.allows .yearOfCentury (year % 100)
  else (ps.get? .century).isNone && (ps.get? .yearOfCentury).isNone

def allowsCivil (ps : Parts) (day : Int) : Bool :=
  let (year, month, dayOfMonth) := civil day
  ps.allows .year year && ps.allowsCentury year &&
    ps.allows .month month && ps.allows .day dayOfMonth

def allowsIsoWeek (ps : Parts) (day : Int) : Bool :=
  let (year, week) := isoWeek day
  ps.allows .weekYear year &&
    (if 0 ≤ year then ps.allows .weekYearOfCentury (year % 100)
     else (ps.get? .weekYearOfCentury).isNone) &&
    ps.allows .isoWeek week && ps.allows .weekday (Calendar.weekday day)

def allowsOrdinal (ps : Parts) (day : Int) : Bool :=
  ps.allows .dayOfYear (ordinalOf day) &&
    ps.allows .weekFromSunday (weekFrom sunday day) &&
    ps.allows .weekFromMonday (weekFrom monday day)

/-- Whether every part of a day that is given agrees with a day. -/
def allowsDay (ps : Parts) (day : Int) : Bool :=
  ps.allowsCivil day && ps.allowsIsoWeek day && ps.allowsOrdinal day &&
    ps.allows .quarter (quarterOf day)

/-- The day that the parts fix before the others are compared with it: by year, month and day, by
year and day of the year, or by year, week and weekday. -/
def proposedDay (ps : Parts) : Except Misfit Int := do
  let year ← resolveYear (ps.get? .year) (ps.get? .century) (ps.get? .yearOfCentury)
  let weekYear ← resolveYear (ps.get? .weekYear) none (ps.get? .weekYearOfCentury)
  let found (day : Option Int) : Except Misfit Int :=
    match day with
    | some d => .ok d
    | none => .error .impossible
  -- the ways are tried in this order, and the first that has its parts is taken
  match year, ps.get? .month, ps.get? .day with
  | some y, some m, some d => found (ofCivil? y m d)
  | _, _, _ =>
  match year, ps.get? .dayOfYear with
  | some y, some o => found (ofOrdinal? y o)
  | _, _ =>
  match year, ps.get? .weekFromSunday, ps.get? .weekday with
  | some y, some w, some d => found (ofWeekFrom? sunday y w d)
  | _, _, _ =>
  match year, ps.get? .weekFromMonday, ps.get? .weekday with
  | some y, some w, some d => found (ofWeekFrom? monday y w d)
  | _, _, _ =>
  match weekYear, ps.get? .isoWeek, ps.get? .weekday with
  | some y, some w, some d => found (ofIsoWeek? y w d)
  | _, _, _ => .error .incomplete

/-- The day that the parts stand for. -/
def day (ps : Parts) : Except Misfit Int := do
  let d ← ps.proposedDay
  if ps.allowsDay d then return d else throw .impossible

/-! ### The time of day -/

/-- A value that must be there. -/
def required (ps : Parts) (p : Part) : Except Misfit Int :=
  match ps.get? p with
  | some v => .ok v
  | none => .error .incomplete

/-- The second of the day and the nanoseconds that the parts stand for. Seconds may be missing, and
nanoseconds if there are seconds; second 60 is a leap second. -/
def timeOfDay (ps : Parts) : Except Misfit (Int × Int) := do
  let half ← ps.required .half
  let hour ← ps.required .hourInHalf
  let minute ← ps.required .minute
  let nano ← match ps.get? .second, ps.get? .nanosecond with
    | none, some _ => throw Misfit.incomplete
    | _, nano => pure (nano.getD 0)
  let start := (12 * half + hour) * 3600 + minute * 60
  match ps.get? .second with
  | some 60 => return (start + 59, nano + nanosPerSecond)
  | second => return (start + second.getD 0, nano)

/-! ### Both -/

/-- Parts that a day and a second of the day fix, the second of the minute included or not. -/
def putMoment? (ps : Parts) (withSecond : Bool) (second : Int) : Option Parts := do
  let inDay := second % secondsPerDay
  let (year, ordinal) := yearAndOrdinal (second / secondsPerDay)
  let ps ← if withSecond then ps.put? .second (inDay % 60) else some ps
  let ps ← ps.put? .year year
  let ps ← ps.put? .dayOfYear ordinal
  let ps ← ps.putHour? (inDay / 3600)
  ps.put? .minute (inDay / 60 % 60)

/-- The parts completed from the timestamp, as local time. -/
def completed (ps : Parts) (timestamp offset : Int) : Except Misfit Parts := do
  let moment := timestamp + offset
  if (Instant.ofParts? moment 0).isNone then throw .impossible
  let isLeap := ps.get? .second = some 60
  -- the timestamp of a leap second may be that of the second after it
  let moment :=
    if isLeap ∧ moment % 60 = 0 then moment - 1 else moment
  if isLeap ∧ moment % 60 ≠ 59 then throw .impossible
  match ps.putMoment? (!isLeap) moment with
  | some ps => return ps
  | none => throw .impossible

/-- The local time that the parts stand for, as a second since the beginning of 1970 and
nanoseconds. A timestamp stands in for a day or a time that is incomplete, and must agree with both
otherwise. -/
def localTime (ps : Parts) (offset : Int) : Except Misfit (Int × Int) :=
  match ps.day, ps.timeOfDay, ps.get? .timestamp with
  | .ok d, .ok (second, nano), timestamp =>
    let moment := d * secondsPerDay + second
    match timestamp with
    | none => .ok (moment, nano)
    | some t =>
      if t = moment - offset ∨ (nanosPerSecond ≤ nano ∧ t = moment - offset + 1) then
        .ok (moment, nano)
      else .error .impossible
  | .error .impossible, _, _ | _, .error .impossible, _ => .error .impossible
  | _, _, none => .error .incomplete
  | _, _, some t => do
    let ps ← ps.completed t offset
    let d ← ps.day
    let (second, nano) ← ps.timeOfDay
    return (d * secondsPerDay + second, nano)

/-- The instant that the parts stand for, which need an offset or a timestamp. -/
def instant (ps : Parts) : Except Misfit Instant := do
  let offset ← match ps.get? .offset, ps.get? .timestamp with
    | some o, _ => pure o
    | none, some _ => pure 0
    | none, none => throw Misfit.incomplete
  let (second, nano) ← ps.localTime offset
  if offset ≤ -secondsPerDay ∨ secondsPerDay ≤ offset then throw .impossible
  match Instant.ofParts? (second - offset) nano with
  | some i => return i
  | none => throw .impossible

end Parts

end RecordExpr.DateFormat
