import RecordExpr.Text.Blank

/-!
# Date formats

A date format says how an instant is written and read: text that stands for itself, and specifiers,
which begin with a percent sign and name a part of the date. Between the percent sign and the letter
of a numeric specifier, a hyphen, a zero or an underscore may say how the number is filled up.

The main definition is `items?`, which is `none` for a format with an unknown specifier.
-/

namespace RecordExpr.DateFormat

/-- How a number is filled up on the left. -/
inductive Padding
  | none
  | zero
  | space
  deriving DecidableEq

/-- A number in a date. -/
inductive Number
  | year
  | century
  | yearOfCentury
  /-- the year that the week belongs to -/
  | weekYear
  | weekYearOfCentury
  | quarter
  | month
  | day
  /-- the week of the year, where the first Sunday begins week one -/
  | weekFromSunday
  /-- the same with the first Monday -/
  | weekFromMonday
  /-- the week of the year that the week belongs to -/
  | isoWeek
  /-- the day of the week, from zero for Sunday -/
  | daysFromSunday
  /-- the day of the week, from one for Monday -/
  | dayOfWeek
  | dayOfYear
  | hour
  | hourOfHalf
  | minute
  | second
  | nanosecond
  /-- seconds since the beginning of 1970 -/
  | timestamp
  deriving DecidableEq

/-- How the offset from universal time is written. -/
inductive OffsetStyle
  | plain
  | colon
  | withSeconds
  | hoursOnly
  /-- only for reading: minutes may be missing, and a `Z` may stand for the offset -/
  | permissive
  deriving DecidableEq

inductive Item
  | text (c : Char)
  | blank (c : Char)
  | number (n : Number) (padding : Padding)
  | monthName (full : Bool)
  | weekdayName (full : Bool)
  /-- whether the time is before or after noon -/
  | half (upper : Bool)
  /-- a point and the nanoseconds, or nothing for a full second -/
  | fraction
  /-- the first digits of the nanoseconds, with or without a point -/
  | digits (count : Nat) (point : Bool)
  | zoneName
  | offset (style : OffsetStyle)
  /-- the format of data interchange, with as many digits of the second as needed -/
  | stamp
  deriving DecidableEq

/-- The number that a letter stands for, and how it is filled up. -/
def number? : Char → Option (Number × Padding)
  | 'Y' => some (.year, .zero)
  | 'C' => some (.century, .zero)
  | 'y' => some (.yearOfCentury, .zero)
  | 'G' => some (.weekYear, .zero)
  | 'g' => some (.weekYearOfCentury, .zero)
  | 'q' => some (.quarter, .none)
  | 'm' => some (.month, .zero)
  | 'd' => some (.day, .zero)
  | 'e' => some (.day, .space)
  | 'U' => some (.weekFromSunday, .zero)
  | 'W' => some (.weekFromMonday, .zero)
  | 'V' => some (.isoWeek, .zero)
  | 'w' => some (.daysFromSunday, .none)
  | 'u' => some (.dayOfWeek, .none)
  | 'j' => some (.dayOfYear, .zero)
  | 'H' => some (.hour, .zero)
  | 'k' => some (.hour, .space)
  | 'I' => some (.hourOfHalf, .zero)
  | 'l' => some (.hourOfHalf, .space)
  | 'M' => some (.minute, .zero)
  | 'S' => some (.second, .zero)
  | 'f' => some (.nanosecond, .zero)
  | 's' => some (.timestamp, .none)
  | _ => none

/-- Month, day and year of the century. -/
def shortDate : List Item :=
  [.number .month .zero, .text '/', .number .day .zero, .text '/', .number .yearOfCentury .zero]

def hourAndMinute : List Item := [.number .hour .zero, .text ':', .number .minute .zero]

def timeOfDay : List Item := hourAndMinute ++ [.text ':', .number .second .zero]

/-- The items that a letter other than that of a number stands for. -/
def compound? : Char → Option (List Item)
  | 'b' | 'h' => some [.monthName false]
  | 'B' => some [.monthName true]
  | 'a' => some [.weekdayName false]
  | 'A' => some [.weekdayName true]
  | 'P' => some [.half false]
  | 'p' => some [.half true]
  | 'Z' => some [.zoneName]
  | 'z' => some [.offset .plain]
  | '+' => some [.stamp]
  | 'n' => some [.blank '\n']
  | 't' => some [.blank '\t']
  | '%' => some [.text '%']
  | 'D' | 'x' => some shortDate
  | 'F' =>
    some [.number .year .zero, .text '-', .number .month .zero, .text '-', .number .day .zero]
  | 'v' =>
    some [.number .day .space, .text '-', .monthName false, .text '-', .number .year .zero]
  | 'R' => some hourAndMinute
  | 'T' | 'X' => some timeOfDay
  | 'r' =>
    some [.number .hourOfHalf .zero, .text ':', .number .minute .zero, .text ':',
      .number .second .zero, .blank ' ', .half true]
  | 'c' =>
    some ([.weekdayName false, .blank ' ', .monthName false, .blank ' ', .number .day .space,
      .blank ' '] ++ timeOfDay ++ [.blank ' ', .number .year .zero])
  | _ => none

/-- How many digits of the nanoseconds a digit in a specifier asks for. -/
def digitCount? : Char → Option Nat
  | '3' => some 3
  | '6' => some 6
  | '9' => some 9
  | _ => none

def padding? : Char → Option Padding
  | '-' => some .none
  | '0' => some .zero
  | '_' => some .space
  | _ => none

/-- The items of a specifier, given what follows the percent sign, and how many characters of that
belong to it. -/
def specifier? (cs : List Char) : Option (List Item × Nat) :=
  match cs with
  | ':' :: ':' :: ':' :: 'z' :: _ => some ([.offset .hoursOnly], 4)
  | ':' :: ':' :: 'z' :: _ => some ([.offset .withSeconds], 3)
  | ':' :: 'z' :: _ => some ([.offset .colon], 2)
  | '#' :: 'z' :: _ => some ([.offset .permissive], 2)
  | '.' :: 'f' :: _ => some ([.fraction], 2)
  | '.' :: d :: 'f' :: _ => do return ([.digits (← digitCount? d) true], 3)
  | c :: cs =>
    match padding? c, number? c, compound? c, cs with
    | some padding, _, _, letter :: _ => do
      return ([.number (← number? letter).1 padding], 2)
    | _, some (n, padding), _, _ => some ([.number n padding], 1)
    | _, _, some items, _ => some (items, 1)
    | _, _, _, 'f' :: _ => do return ([.digits (← digitCount? c) false], 2)
    | _, _, _, _ => none
  | [] => none

/-- The items of a format, if every specifier in it is known. -/
def itemsOf? (cs : List Char) : Option (List Item) :=
  match cs with
  | [] => some []
  | '%' :: rest => do
    let (items, length) ← specifier? rest
    return items ++ (← itemsOf? (rest.drop length))
  | c :: rest => do
    return (if Text.isBlank c then Item.blank c else .text c) :: (← itemsOf? rest)
termination_by cs.length

def items? (format : String) : Option (List Item) := itemsOf? format.toList

end RecordExpr.DateFormat
