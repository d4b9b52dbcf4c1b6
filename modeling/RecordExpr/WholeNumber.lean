import RecordExpr.Text.Blank
import RecordExpr.Text.Digits

/-!
# Whole numbers

A whole number is an integer of 64 bits with a sign. Arithmetic is exact or refused: `ofInt?` is
the one place where the range is looked at, and every operation is the operation on integers
followed by it.
-/

namespace RecordExpr

/-- An integer from `-2^63` to `2^63 - 1`. -/
structure WholeNumber where
  toInt : Int
  lower : -0x8000000000000000 ≤ toInt
  upper : toInt < 0x8000000000000000
  deriving DecidableEq

namespace WholeNumber

@[ext]
theorem ext {a b : WholeNumber} (h : a.toInt = b.toInt) : a = b := by
  cases a; cases b; simp_all

/-- The whole number with a given value, if there is one. -/
def ofInt? (n : Int) : Option WholeNumber :=
  if h : -0x8000000000000000 ≤ n ∧ n < 0x8000000000000000 then some ⟨n, h.1, h.2⟩ else none

theorem ofInt?_eq_some_iff {n : Int} {a : WholeNumber} : ofInt? n = some a ↔ a.toInt = n := by
  unfold ofInt?
  constructor
  · intro h
    split at h
    · cases h; rfl
    · cases h
  · rintro rfl
    rw [dif_pos ⟨a.lower, a.upper⟩]

theorem ofInt?_toInt (a : WholeNumber) : ofInt? a.toInt = some a := ofInt?_eq_some_iff.2 rfl

/-- The whole numbers are those of 64 bits with a sign. -/
theorem exists_toInt_iff {n : Int} :
    (∃ a : WholeNumber, a.toInt = n) ↔ -0x8000000000000000 ≤ n ∧ n < 0x8000000000000000 := by
  constructor
  · rintro ⟨a, rfl⟩
    exact ⟨a.lower, a.upper⟩
  · rintro ⟨hlower, hupper⟩
    exact ⟨⟨n, hlower, hupper⟩, rfl⟩

theorem ofInt?_eq_none_iff {n : Int} :
    ofInt? n = none ↔ n < -0x8000000000000000 ∨ 0x8000000000000000 ≤ n := by
  unfold ofInt?
  split <;> simp <;> omega

/-- Zero. -/
def zero : WholeNumber := ⟨0, by decide, by decide⟩

/-- The least whole number. -/
def least : WholeNumber := ⟨-0x8000000000000000, by decide, by decide⟩

/-- The greatest whole number. -/
def greatest : WholeNumber := ⟨0x7FFFFFFFFFFFFFFF, by decide, by decide⟩

/-- The whole number nearest to an integer. -/
def clamp (n : Int) : WholeNumber := (ofInt? n).getD (if n < 0 then least else greatest)

/-! ### Arithmetic -/

/-- The sum, unless it leaves the range. -/
def add? (a b : WholeNumber) : Option WholeNumber := ofInt? (a.toInt + b.toInt)

/-- The difference, unless it leaves the range. -/
def sub? (a b : WholeNumber) : Option WholeNumber := ofInt? (a.toInt - b.toInt)

/-- The product, unless it leaves the range. -/
def mul? (a b : WholeNumber) : Option WholeNumber := ofInt? (a.toInt * b.toInt)

/-- The negation, unless it leaves the range. -/
def neg? (a : WholeNumber) : Option WholeNumber := ofInt? (-a.toInt)

/-- The quotient cut off toward zero, unless it leaves the range. -/
def quot? (a b : WholeNumber) : Option WholeNumber := ofInt? (a.toInt.tdiv b.toInt)

/-- The remainder of the quotient, with the sign of `a`; refused where the quotient is. -/
def rem? (a b : WholeNumber) : Option WholeNumber := do
  let _ ← quot? a b
  ofInt? (a.toInt.tmod b.toInt)

/-! ### Text -/

/-- An optional sign, then one or more ASCII digits, then nothing. -/
def signedValue? : List Char → Option Int
  | '-' :: cs => if cs ≠ [] ∧ cs.all Char.isDigit then some (-(Text.digitsValue cs : Int)) else none
  | '+' :: cs => if cs ≠ [] ∧ cs.all Char.isDigit then some (Text.digitsValue cs) else none
  | cs => if cs ≠ [] ∧ cs.all Char.isDigit then some (Text.digitsValue cs) else none

/-- Reads a whole number; blanks around it do not count. -/
def parse? (s : String) : Option WholeNumber :=
  signedValue? (Text.trimmed s.toList) >>= ofInt?

/-- The digits, with a minus sign in front of a negative number. -/
def render (a : WholeNumber) : String := String.ofList (Text.intDigits a.toInt)

end WholeNumber

end RecordExpr
