import RecordExpr.Date.Calendar
import RecordExpr.WholeNumber

/-!
# Instants

An instant is a second since the beginning of 1970 and a number of nanoseconds in it. A leap second
has no number of its own: it is the second half of a second that is two seconds long. Any second may
be so long, although a clock has leap seconds only at the end of a minute.

Offsets of instants are counted in milliseconds.
-/

namespace RecordExpr

/-- The nanoseconds of a second. -/
abbrev nanosPerSecond : Int := 1000000000

/-- The nanoseconds of a millisecond. -/
abbrev nanosPerMilli : Int := 1000000

abbrev secondsPerDay : Int := 86400

/-- The first and the last second of the calendar in use. -/
def Calendar.firstSecond : Int := firstDay * secondsPerDay

@[inherit_doc Calendar.firstSecond]
def Calendar.lastSecond : Int := (lastDay + 1) * secondsPerDay - 1

/-- A point in time. -/
structure Instant where
  second : Int
  nano : Int
  second_lower : Calendar.firstSecond ≤ second
  second_upper : second ≤ Calendar.lastSecond
  nano_lower : 0 ≤ nano
  nano_upper : nano < 2 * nanosPerSecond
  deriving DecidableEq

namespace Instant

@[ext]
theorem ext {a b : Instant} (h : a.second = b.second) (h' : a.nano = b.nano) : a = b := by
  cases a; cases b; simp_all

/-- The instant with given parts, if there is one. -/
def ofParts? (second nano : Int) : Option Instant :=
  if h : (Calendar.firstSecond ≤ second ∧ second ≤ Calendar.lastSecond) ∧
      0 ≤ nano ∧ nano < 2 * nanosPerSecond then
    some ⟨second, nano, h.1.1, h.1.2, h.2.1, h.2.2⟩
  else none

theorem ofParts?_eq_some_iff {s n : Int} {i : Instant} :
    ofParts? s n = some i ↔ i.second = s ∧ i.nano = n := by
  unfold ofParts?
  constructor
  · intro h
    split at h
    · cases h; exact ⟨rfl, rfl⟩
    · cases h
  · rintro ⟨rfl, rfl⟩
    rw [dif_pos ⟨⟨i.second_lower, i.second_upper⟩, i.nano_lower, i.nano_upper⟩]

/-- The beginning of 1970. -/
def epoch : Instant := ⟨0, 0, by decide, by decide, by decide, by decide⟩

/-- Whether the instant lies in a leap second. -/
def isLeap (i : Instant) : Bool := nanosPerSecond ≤ i.nano

/-- The number of the day. -/
def day (i : Instant) : Int := i.second / secondsPerDay

/-- The second of the day. -/
def secondOfDay (i : Instant) : Int := i.second % secondsPerDay

/-- The order of time, in which a leap second follows the second that it prolongs. -/
def compare (a b : Instant) : Ordering :=
  (Ord.compare a.second b.second).then (Ord.compare a.nano b.nano)

/-! ### Milliseconds -/

/-- Seconds have 43 bits besides their sign. -/
theorem bounds (i : Instant) : -0x80000000000 ≤ i.second ∧ i.second < 0x80000000000 ∧
    0 ≤ i.nano ∧ i.nano < 2000000000 := by
  have hfirst : -0x80000000000 ≤ Calendar.firstSecond := by decide
  have hlast : Calendar.lastSecond < 0x80000000000 := by decide
  exact ⟨Int.le_trans hfirst i.second_lower, Int.lt_of_le_of_lt i.second_upper hlast,
    i.nano_lower, i.nano_upper⟩

/-- Milliseconds since the beginning of 1970, rounded toward the past. -/
def millis (i : Instant) : WholeNumber :=
  ⟨i.second * 1000 + i.nano / nanosPerMilli,
    by have := i.bounds; simp only [nanosPerMilli]; omega,
    by have := i.bounds; simp only [nanosPerMilli]; omega⟩

/-- The instant a number of milliseconds after the beginning of 1970. -/
def ofMillis? (n : Int) : Option Instant := ofParts? (n / 1000) (n % 1000 * nanosPerMilli)

/-- The instant a number of milliseconds later. An offset that does not leave a leap second stays in
it. Otherwise the leap second passes in no time: an instant in it counts as the same stretch of the
second before, if the way leads forward, or of the second after. -/
def addMillis? (i : Instant) (n : Int) : Option Instant :=
  let moved := i.nano + n * nanosPerMilli
  if i.isLeap ∧ n.natAbs < 1000 ∧ moved < 2 * nanosPerSecond then ofParts? i.second moved
  else
    let nanos :=
      i.second * nanosPerSecond + (if i.isLeap ∧ 0 < n then moved - nanosPerSecond else moved)
    ofParts? (nanos / nanosPerSecond) (nanos % nanosPerSecond)

/-- The seconds that the leap seconds between two times of day add to their distance. -/
def leapCorrection (a b : Instant) : Int :=
  if b.secondOfDay < a.secondOfDay ∧ b.isLeap then 1
  else if a.secondOfDay < b.secondOfDay ∧ a.isLeap then -1
  else 0

/-- Nanoseconds from `b` to `a`. -/
def nanosSince (a b : Instant) : Int :=
  (a.second - b.second + leapCorrection a b) * nanosPerSecond + (a.nano - b.nano)

/-- The nanoseconds beyond a second count for one second at most. -/
theorem leapCorrection_bounds (a b : Instant) :
    -1 ≤ leapCorrection a b ∧ leapCorrection a b ≤ 1 := by
  unfold leapCorrection
  split
  · omega
  · split <;> omega

theorem nanosSince_bounds (a b : Instant) :
    -0x8000000000000000 * nanosPerMilli < nanosSince a b ∧
      nanosSince a b < 0x8000000000000000 * nanosPerMilli := by
  have := leapCorrection_bounds a b
  have := a.bounds
  have := b.bounds
  simp only [nanosSince, nanosPerMilli, nanosPerSecond]
  omega

/-- Milliseconds from `b` to `a`, cut off toward zero. -/
def millisSince (a b : Instant) : WholeNumber :=
  ⟨(nanosSince a b).tdiv nanosPerMilli, by
    have := nanosSince_bounds a b
    simp only [nanosPerMilli, Int.tdiv_eq_ediv, show Int.sign 1000000 = 1 from rfl] at *
    split <;> omega, by
    have := nanosSince_bounds a b
    simp only [nanosPerMilli, Int.tdiv_eq_ediv, show Int.sign 1000000 = 1 from rfl] at *
    split <;> omega⟩

end Instant

end RecordExpr
