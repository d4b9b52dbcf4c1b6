import RecordExpr.Date.Format
import RecordExpr.Date.Parts
import RecordExpr.Text.Digits

/-!
# Reading dates

A text is read item by item. Each item takes what belongs to it off the text and adds the parts that
it found; an item that does not fit ends the reading. Blanks in front of numbers and offsets are
skipped, and a blank in the format stands for any number of them.

The main definitions are `readItems?`, which reads by a format, `readStrict?`, which reads the form
of data interchange, and `readRelaxed?`, which is more liberal with blanks, signs and the offset.
-/

namespace RecordExpr.DateFormat

open Calendar

/-- What is left of a text and the parts that have been read. -/
abbrev Progress := List Char × Parts

/-! ### Numbers and names -/

/-- Reads a number with at least `least` and at most `most` digits, or without a limit. -/
def readNumber? (least : Nat) (most : Option Nat) (cs : List Char) : Option (Int × List Char) :=
  let (digits, rest) := Text.spanDigits (most.getD cs.length) cs
  let value : Nat := Text.digitsValue digits
  if least ≤ digits.length ∧ value < 0x8000000000000000 then some (value, rest) else none

/-- Reads a number that may have a sign; with one it may be of any length. -/
def readSigned? (most : Nat) (cs : List Char) : Option (Int × List Char) :=
  match cs with
  | '-' :: rest => (readNumber? 1 none rest).map fun r => (-r.1, r.2)
  | '+' :: rest => readNumber? 1 none rest
  | cs => readNumber? 1 (some most) cs

/-- Reads digits after a decimal point of seconds, as nanoseconds; those after the ninth are
dropped. -/
def readFraction? (cs : List Char) : Option (Int × List Char) := do
  let (value, rest) ← readNumber? 1 (some 9) cs
  let count := cs.length - rest.length
  return (value * Nat.pow 10 (9 - count), rest.dropWhile Char.isDigit)

/-- Reads exactly `count` digits after a decimal point of seconds, as nanoseconds. -/
def readFixedFraction? (count : Nat) (cs : List Char) : Option (Int × List Char) := do
  let (value, rest) ← readNumber? count (some count) cs
  return (value * Nat.pow 10 (9 - count), rest)

/-- The text after a word, in which the case of letters does not count. -/
def skipWord? (word cs : List Char) : Option (List Char) :=
  if (cs.take word.length).map Char.toLower = word.map Char.toLower then
    some (cs.drop word.length)
  else none

/-- Reads one of some names by its first three letters, or if `full` by the whole name as well. The
answer is the place of the name. -/
def readName? (full : Bool) (cs : List Char) : Int → List String → Option (Int × List Char)
  | _, [] => none
  | i, name :: names =>
    match skipWord? (name.toList.take 3) cs with
    | none => readName? full cs (i + 1) names
    | some rest =>
      if full then some (i, (skipWord? (name.toList.drop 3) rest).getD rest) else some (i, rest)

/-! ### Offsets -/

/-- The text after a character that must come next. -/
def skipChar? (c : Char) : List Char → Option (List Char)
  | [] => none
  | d :: rest => if d = c then some rest else none

/-- The text after any colons and blanks. -/
def skipColons (cs : List Char) : List Char := cs.dropWhile fun c => c == ':' || Text.isBlank c

/-- How an offset may be written. -/
structure OffsetRules where
  /-- what stands between the hours and the minutes -/
  separator : List Char → Option (List Char)
  /-- whether `Z` stands for universal time -/
  zulu : Bool
  /-- whether the text may end after the hours -/
  hoursOnly : Bool

/-- Reads an offset in seconds: a sign, two digits of hours and two of minutes. -/
def readOffset? (rules : OffsetRules) (cs : List Char) : Option (Int × List Char) :=
  match cs with
  | [] => none
  | c :: rest =>
    if rules.zulu ∧ (c = 'Z' ∨ c = 'z') then some (0, rest)
    else do
      let sign : Int ←
        if c = '+' then some 1 else if c = '-' ∨ c = '−' then some (-1) else none
      let (hours, rest) ← readNumber? 2 (some 2) rest
      let rest ← rules.separator rest
      if rules.hoursOnly ∧ rest = [] then return (sign * hours * 3600, rest)
      else
        let (minutes, rest) ← readNumber? 2 (some 2) rest
        if minutes < 60 then return (sign * (hours * 3600 + minutes * 60), rest) else none

/-! ### Items -/

/-- Adds a number that was read. -/
def putNumber? (ps : Parts) (v : Int) : Number → Option Parts
  | .year => ps.put? .year v
  | .century => ps.put? .century v
  | .yearOfCentury => ps.put? .yearOfCentury v
  | .weekYear => ps.put? .weekYear v
  | .weekYearOfCentury => ps.put? .weekYearOfCentury v
  | .quarter => ps.put? .quarter v
  | .month => ps.put? .month v
  | .day => ps.put? .day v
  | .weekFromSunday => ps.put? .weekFromSunday v
  | .weekFromMonday => ps.put? .weekFromMonday v
  | .isoWeek => ps.put? .isoWeek v
  | .daysFromSunday => if v ≤ 6 then ps.put? .weekday ((v + 6) % 7) else none
  | .dayOfWeek => ps.put? .weekday (v - 1)
  | .dayOfYear => ps.put? .dayOfYear v
  | .hour => ps.putHour? v
  | .hourOfHalf => if 1 ≤ v ∧ v ≤ 12 then ps.put? .hourInHalf (v % 12) else none
  | .minute => ps.put? .minute v
  | .second => ps.put? .second v
  | .nanosecond => ps.put? .nanosecond v
  | .timestamp => ps.put? .timestamp v

/-- The most digits of a number without a sign. -/
def Number.width : Number → Option Nat
  | .timestamp => none
  | .nanosecond => some 9
  | .year | .weekYear => some 4
  | .dayOfYear => some 3
  | .quarter | .daysFromSunday | .dayOfWeek => some 1
  | _ => some 2

def readNumberItem? (n : Number) (p : Progress) : Option Progress := do
  let cs := Text.skipBlanks p.1
  let (value, rest) ← match n with
    | .year | .weekYear => readSigned? 4 cs
    | n => readNumber? 1 n.width cs
  return (rest, ← putNumber? p.2 value n)

/-- Reads nanoseconds behind a point, if there is a point. -/
def readAfterPoint? (read : List Char → Option (Int × List Char)) (p : Progress) :
    Option Progress :=
  match p.1 with
  | '.' :: rest => do
    let (nano, rest) ← read rest
    return (rest, ← p.2.put? .nanosecond nano)
  | _ => some p

def readOffsetItem? (rules : OffsetRules) (p : Progress) : Option Progress := do
  let (offset, rest) ← readOffset? rules (Text.skipBlanks p.1)
  return (rest, ← p.2.put? .offset offset)

/-- The text after the `T` or the blank between a date and a time. -/
def skipTimeMark? : List Char → Option (List Char)
  | c :: rest => if c = 'T' ∨ c = 't' ∨ c = ' ' then some rest else none
  | [] => none

/-- Reads a form of data interchange that allows blanks around the parts, any year, and the letters
`UTC` for the offset. -/
def readStamp? (p : Progress) : Option Progress := do
  let gap (cs : List Char) (c : Char) := skipChar? c (Text.skipBlanks cs)
  let (cs, ps) ← readNumberItem? .year p
  let (cs, ps) ← readNumberItem? .month (← gap cs '-', ps)
  let (cs, ps) ← readNumberItem? .day (← gap cs '-', ps)
  let (cs, ps) ← readNumberItem? .hour (← skipTimeMark? cs, ps)
  let (cs, ps) ← readNumberItem? .minute (← gap cs ':', ps)
  let (cs, ps) ← readNumberItem? .second (← gap cs ':', ps)
  let (cs, ps) ← readAfterPoint? readFraction? (cs, ps)
  let cs := Text.skipBlanks cs
  match skipWord? "UTC".toList cs with
  | some rest => return (rest, ← ps.put? .offset 0)
  | none => readOffsetItem? ⟨some ∘ skipColons, true, false⟩ (cs, ps)

def readItem? (p : Progress) : Item → Option Progress
  | .text c => do return (← skipChar? c p.1, p.2)
  | .blank _ => some (Text.skipBlanks p.1, p.2)
  | .number n _ => readNumberItem? n p
  | .monthName full => do
    let (i, rest) ← readName? full p.1 1 monthNames
    return (rest, ← p.2.put? .month i)
  | .weekdayName full => do
    let (i, rest) ← readName? full p.1 0 weekdayNames
    return (rest, ← p.2.put? .weekday i)
  | .half _ =>
    match skipWord? ['a', 'm'] p.1, skipWord? ['p', 'm'] p.1 with
    | some rest, _ => do return (rest, ← p.2.put? .half 0)
    | none, some rest => do return (rest, ← p.2.put? .half 1)
    | none, none => none
  | .fraction => readAfterPoint? readFraction? p
  | .digits count true => readAfterPoint? (readFixedFraction? count) p
  | .digits count false => do
    let (nano, rest) ← readFixedFraction? count p.1
    return (rest, ← p.2.put? .nanosecond nano)
  | .zoneName => some (p.1.dropWhile fun c => !Text.isBlank c, p.2)
  | .offset .permissive => readOffsetItem? ⟨some ∘ skipColons, true, true⟩ p
  | .offset _ => readOffsetItem? ⟨some ∘ skipColons, false, false⟩ p
  | .stamp => readStamp? p

/-- The parts in a text that is written in a format from beginning to end. -/
def readItems? (items : List Item) (cs : List Char) : Option Parts := do
  match ← items.foldlM readItem? (cs, []) with
  | ([], ps) => some ps
  | _ => none

/-! ### Data interchange -/

/-- The largest offset in the strict form. -/
def strictOffsetLimit : Int := (23 * 60 + 59) * 60

/-- Reads a number of exactly `count` digits into a part. -/
def readExact? (count : Nat) (n : Number) (p : Progress) : Option Progress := do
  let (value, rest) ← readNumber? count (some count) p.1
  return (rest, ← putNumber? p.2 value n)

/-- The parts in a text such as `2024-05-06T07:08:09.5+02:00`. -/
def readStrictParts? (cs : List Char) : Option Parts := do
  let (cs, ps) ← readExact? 4 .year (cs, [])
  let (cs, ps) ← readExact? 2 .month (← skipChar? '-' cs, ps)
  let (cs, ps) ← readExact? 2 .day (← skipChar? '-' cs, ps)
  let (cs, ps) ← readExact? 2 .hour (← skipTimeMark? cs, ps)
  let (cs, ps) ← readExact? 2 .minute (← skipChar? ':' cs, ps)
  let (cs, ps) ← readExact? 2 .second (← skipChar? ':' cs, ps)
  let (cs, ps) ← readAfterPoint? readFraction? (cs, ps)
  let (offset, cs) ← readOffset? ⟨skipChar? ':', true, false⟩ cs
  if cs = [] ∧ offset.natAbs ≤ strictOffsetLimit then ps.put? .offset offset else none

/-- The value, if there is one. -/
def found {α : Type} : Except Misfit α → Option α
  | .ok a => some a
  | .error _ => none

def readStrict? (s : String) : Option Instant := do
  found (← readStrictParts? s.toList).instant

/-- Reads the form of data interchange as data formats hand it over. -/
def readRelaxed? (s : String) : Option Instant := do
  let (rest, ps) ← readStamp? (s.toList, [])
  if Text.skipBlanks rest = [] then found ps.instant else none

/-- The instant in a text that is written in a format. What has no offset is taken as universal
time, and what fixes no time of day as midnight. -/
def read? (items : List Item) (cs : List Char) : Option Instant := do
  let ps ← readItems? items cs
  (found ps.instant).orElse fun _ =>
    match found (ps.localTime 0) with
    | some (second, nano) => Instant.ofParts? second nano
    | none => do Instant.ofParts? ((← found ps.day) * secondsPerDay) 0

end RecordExpr.DateFormat
