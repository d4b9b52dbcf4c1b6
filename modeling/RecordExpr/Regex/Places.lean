/-!
# Sets of places

The places of a text lie in front of its characters and at its end, and are numbered from zero. A
set of places is a natural number: place `i` belongs to it when bit `i` is set.
-/

namespace RecordExpr.Regex

/-- A set of places, as the bits of a number. -/
structure Places where
  bits : Nat
  deriving DecidableEq

namespace Places

def contains (s : Places) (i : Nat) : Bool := s.bits.testBit i

def empty : Places := ⟨0⟩

/-- The places before `n`. -/
def below (n : Nat) : Places := ⟨(1 <<< n) - 1⟩

def union (s t : Places) : Places := ⟨s.bits ||| t.bits⟩

def inter (s t : Places) : Places := ⟨s.bits &&& t.bits⟩

/-- The places whose successor is in the set. -/
def pred (s : Places) : Places := ⟨s.bits >>> 1⟩

/-- The places where a list of answers says yes. -/
def ofAnswers : List Bool → Places
  | [] => empty
  | b :: bs => ⟨2 * (ofAnswers bs).bits + b.toNat⟩

/-- The first place of the set from `start` on and before `stop`. -/
def firstBetween? (s : Places) (start stop : Nat) : Option Nat :=
  (List.range' start (stop - start)).find? s.contains

@[simp]
theorem contains_empty (i : Nat) : empty.contains i = false := Nat.zero_testBit i

/-- The first places of a text. -/
@[simp]
theorem contains_below (n i : Nat) : (below n).contains i = decide (i < n) := by
  rw [contains, below, Nat.one_shiftLeft, Nat.testBit_two_pow_sub_one]

@[simp]
theorem contains_union (s t : Places) (i : Nat) :
    (s.union t).contains i = (s.contains i || t.contains i) := Nat.testBit_or ..

@[simp]
theorem contains_inter (s t : Places) (i : Nat) :
    (s.inter t).contains i = (s.contains i && t.contains i) := Nat.testBit_and ..

/-- All places move one to the left. -/
@[simp]
theorem contains_pred (s : Places) (i : Nat) : s.pred.contains i = s.contains (i + 1) := by
  simp [pred, contains, Nat.testBit_shiftRight, Nat.add_comm]

@[simp]
theorem contains_ofAnswers (bs : List Bool) (i : Nat) :
    (ofAnswers bs).contains i = (bs[i]?).getD false := by
  induction bs generalizing i with
  | nil => simp [ofAnswers]
  | cons b bs ih =>
    cases i with
    | zero => cases b <;> simp [ofAnswers, contains, Nat.testBit_zero]
    | succ i =>
      have : (2 * (ofAnswers bs).bits + b.toNat) / 2 = (ofAnswers bs).bits := by
        have := b.toNat_lt
        omega
      simp [ofAnswers, contains, Nat.testBit_succ, this, ← ih]

end Places

end RecordExpr.Regex
