import RecordExpr.Date.Format
import RecordExpr.Date.Instant

/-!
# Writing dates

An instant is written in universal time, either by a format or in the form of data interchange,
`2024-05-06T07:08:09Z`. Years from 0 to 9999 have four digits, and all others have a sign and at
least four digits.
-/

namespace RecordExpr.DateFormat

open Calendar

/-! ### Numbers -/

/-- A number with at least `width` characters, the sign counted. -/
def paddedInt (width : Nat) (padding : Padding) (signed : Bool) (n : Int) : List Char :=
  let digits := Text.natDigits n.natAbs
  let sign := if n < 0 then ['-'] else if signed then ['+'] else []
  match padding with
  | .none => sign ++ digits
  | .space => Text.padLeft width ' ' (sign ++ digits)
  | .zero => sign ++ Text.padLeft (width - sign.length) '0' digits

/-- The character that stands for a number of tens; those after the nine follow the digits. -/
def tensChar (n : Int) : Char := Char.ofNat ('0'.toNat + n.toNat)

/-- A number of two digits. -/
def twoDigits (padding : Padding) (n : Int) : List Char :=
  let tens := match padding, n / 10 with
    | .none, 0 => []
    | .space, 0 => [' ']
    | _, t => [tensChar t]
  tens ++ [tensChar (n % 10)]

def yearDigits (padding : Padding) (year : Int) : List Char :=
  let signed := year < 0 ∨ 9999 < year
  paddedInt (if signed then 5 else 4) padding signed year

/-- The hour of a half of the day, where twelve comes first. -/
def hourOfHalf (hour : Int) : Int := if hour % 12 = 0 then 12 else hour % 12

/-! ### Parts of an instant -/

def hourOf (i : Instant) : Int := i.secondOfDay / 3600

def minuteOf (i : Instant) : Int := i.secondOfDay / 60 % 60

/-- The second of the minute, which is 60 in a leap second. -/
def secondOf (i : Instant) : Int := i.secondOfDay % 60 + i.nano / nanosPerSecond

def nanosecondOf (i : Instant) : Int := i.nano % nanosPerSecond

/-- The first digits of the nanoseconds. -/
def fractionDigits (count : Nat) (nano : Int) : List Char :=
  (Text.zeroPadded 9 nano.toNat).take count

/-- A point and 3, 6 or 9 digits, as many as needed; nothing for a full second. -/
def shortFraction (nano : Int) : List Char :=
  if nano = 0 then []
  else if nano % 1000000 = 0 then '.' :: fractionDigits 3 nano
  else if nano % 1000 = 0 then '.' :: fractionDigits 6 nano
  else '.' :: fractionDigits 9 nano

/-! ### Data interchange -/

/-- The date and the time of day with some digits of the second. -/
def isoText (fraction : Int → List Char) (i : Instant) : List Char :=
  let (year, month, day) := civil i.day
  yearDigits .zero year ++ '-' :: twoDigits .zero month ++ '-' :: twoDigits .zero day ++
    'T' :: twoDigits .zero (hourOf i) ++ ':' :: twoDigits .zero (minuteOf i) ++
    ':' :: twoDigits .zero (secondOf i) ++ fraction (nanosecondOf i)

/-- The form in which dates become text where no format is given: with milliseconds. -/
def renderMillis (i : Instant) : String :=
  String.ofList (isoText (fun n => '.' :: fractionDigits 3 n) i ++ ['Z'])

/-- The form in which dates are stored: with as many digits as needed. -/
def renderExact (i : Instant) : String := String.ofList (isoText shortFraction i ++ ['Z'])

/-! ### Formats -/

def nameAt (names : List String) (index : Int) (full : Bool) : List Char :=
  let name := ((names[index.toNat]?).getD "").toList
  if full then name else name.take 3

def renderNumber (i : Instant) (padding : Padding) : Number → List Char
  | .year => yearDigits padding (yearOf i.day)
  | .century => twoDigits padding (yearOf i.day / 100 % 256)
  | .yearOfCentury => twoDigits padding (yearOf i.day % 100)
  | .weekYear => yearDigits padding (isoWeek i.day).1
  | .weekYearOfCentury => twoDigits padding ((isoWeek i.day).1 % 100)
  | .quarter => [tensChar (quarterOf i.day)]
  | .month => twoDigits padding (monthOf i.day)
  | .day => twoDigits padding (dayOfMonth i.day)
  | .weekFromSunday => twoDigits padding (weekFrom sunday i.day)
  | .weekFromMonday => twoDigits padding (weekFrom monday i.day)
  | .isoWeek => twoDigits padding (isoWeek i.day).2
  | .daysFromSunday => [tensChar (daysSince (weekday i.day) sunday)]
  | .dayOfWeek => [tensChar (weekday i.day + 1)]
  | .dayOfYear => paddedInt 3 padding false (ordinalOf i.day)
  | .hour => twoDigits padding (hourOf i)
  | .hourOfHalf => twoDigits padding (hourOfHalf (hourOf i))
  | .minute => twoDigits padding (minuteOf i)
  | .second => twoDigits padding (secondOf i)
  | .nanosecond => paddedInt 9 padding false (nanosecondOf i)
  | .timestamp => paddedInt 9 padding false i.second

/-- The offset of universal time from itself. -/
def renderOffset? : OffsetStyle → Option String
  | .plain => some "+0000"
  | .colon => some "+00:00"
  | .withSeconds => some "+00:00:00"
  | .hoursOnly => some "+00"
  | .permissive => none

/-- The text of an item; `none` for one that can only be read. -/
def renderItem? (i : Instant) : Item → Option (List Char)
  | .text c | .blank c => some [c]
  | .number n padding => some (renderNumber i padding n)
  | .monthName full => some (nameAt monthNames (monthOf i.day - 1) full)
  | .weekdayName full => some (nameAt weekdayNames (weekday i.day) full)
  | .half upper =>
    let name := if hourOf i < 12 then "AM" else "PM"
    some (if upper then name else name.map Char.toLower).toList
  | .fraction => some (shortFraction (nanosecondOf i))
  | .digits count point =>
    some ((if point then ['.'] else []) ++ fractionDigits count (nanosecondOf i))
  | .zoneName => some "UTC".toList
  | .offset style => (renderOffset? style).map String.toList
  | .stamp => some (isoText shortFraction i ++ "+00:00".toList)

/-- An instant in a format. -/
def render? (items : List Item) (i : Instant) : Option String := do
  return String.ofList (← items.mapM (renderItem? i)).flatten

end RecordExpr.DateFormat
