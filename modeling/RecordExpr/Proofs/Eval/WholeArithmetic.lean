import RecordExpr.Proofs.Eval.Kind

/-!
# Arithmetic of whole numbers

Arithmetic of whole numbers is that of integers, or refused (`whole_arithmetic_exact`). Sums,
differences, products and negations are refused just if they leave the range (`YieldsWhole`). A
quotient and a remainder belong together (`Divides`): both are refused for a zero divisor, both for
the one quotient that leaves the range, and nowhere else. There the remainder would be zero, so it
is not for its own size that it is refused.

That only one quotient leaves the range is `WholeNumber.quot?_eq_none_iff`: divisors other than one
and minus one halve the dividend at least.
-/

namespace RecordExpr

variable {env : Environment} {x y : Expr} {a b : WholeNumber}

/-! ### Outcomes -/

/-- The outcome is the whole number with a given value, or the overflow of an operator if there is
none. -/
structure YieldsWhole (operator : String) (t : Int) (outcome : Except EvalError Result) : Prop where
  within : -0x8000000000000000 ≤ t → t < 0x8000000000000000 →
    ∃ n : WholeNumber, n.toInt = t ∧ outcome = .ok (.present (.wholeNumber n))
  beyond : t < -0x8000000000000000 ∨ 0x8000000000000000 ≤ t → outcome = .error (.overflow operator)

/-- The outcomes of a division and of its remainder: the same operands are refused for the same
reason, and for all others the two make up the dividend. -/
structure Divides (a b : WholeNumber) (quotient remainder : Except EvalError Result) : Prop where
  quotient_by_zero : quotient = .error .divisionByZero ↔ b.toInt = 0
  remainder_by_zero : remainder = .error .divisionByZero ↔ b.toInt = 0
  quotient_overflows : quotient = .error (.overflow "divide") ↔
    a.toInt = -0x8000000000000000 ∧ b.toInt = -1
  remainder_overflows : remainder = .error (.overflow "mod") ↔
    a.toInt = -0x8000000000000000 ∧ b.toInt = -1
  exact : b.toInt ≠ 0 → ¬(a.toInt = -0x8000000000000000 ∧ b.toInt = -1) → ∃ q r : WholeNumber,
    quotient = .ok (.present (.wholeNumber q)) ∧ remainder = .ok (.present (.wholeNumber r)) ∧
      a.toInt = b.toInt * q.toInt + r.toInt ∧ r.toInt.natAbs < b.toInt.natAbs ∧
        (r.toInt = 0 ∨ r.toInt.sign = a.toInt.sign)

/-! ### Whole numbers -/

namespace WholeNumber

/-- An exact result that is checked against 64 bits is that or an overflow. -/
theorem yieldsWhole_ofInt? (operator : String) (t : Int) :
    YieldsWhole operator t
      (orOverflow operator (ofInt? t) >>= fun n => .ok (.present (.wholeNumber n))) := by
  constructor
  · intro hlower hupper
    obtain ⟨n, rfl⟩ := exists_toInt_iff.mpr ⟨hlower, hupper⟩
    exact ⟨n, rfl, by rw [ofInt?_toInt]; rfl⟩
  · intro h
    have hnone : ofInt? t = none := by
      rw [ofInt?_eq_none_iff]
      omega
    rw [hnone]
    rfl

/-- A divisor of size two or more halves the dividend at least. -/
theorem natAbs_tdiv_le_half {s t : Int} (hzero : t ≠ 0) (hone : t ≠ 1) (hminus : t ≠ -1) :
    (s.tdiv t).natAbs ≤ s.natAbs / 2 := by
  rw [Int.natAbs_tdiv]
  exact Nat.div_le_div_left (by omega) (by decide)

/-- Only one quotient leaves the range. -/
theorem quot?_eq_none_iff (hb : b.toInt ≠ 0) :
    quot? a b = none ↔ a.toInt = -0x8000000000000000 ∧ b.toInt = -1 := by
  have := a.lower
  have := a.upper
  rw [quot?, ofInt?_eq_none_iff]
  by_cases hminus : b.toInt = -1
  · rw [hminus, Int.tdiv_neg, Int.tdiv_one]
    omega
  by_cases hone : b.toInt = 1
  · rw [hone, Int.tdiv_one]
    omega
  · have hhalf : (a.toInt.tdiv b.toInt).natAbs ≤ a.toInt.natAbs / 2 :=
      natAbs_tdiv_le_half hb hone hminus
    omega

theorem natAbs_tmod_lt (a : Int) {b : Int} (hb : b ≠ 0) : (a.tmod b).natAbs < b.natAbs := by
  rw [Int.natAbs_tmod]
  exact Nat.mod_lt _ (by omega)

/-- A remainder does not leave the range on its own account. -/
theorem exists_toInt_tmod (hb : b.toInt ≠ 0) :
    ∃ r : WholeNumber, r.toInt = a.toInt.tmod b.toInt := by
  have hlt : (a.toInt.tmod b.toInt).natAbs < b.toInt.natAbs := natAbs_tmod_lt _ hb
  have := b.lower
  have := b.upper
  rw [exists_toInt_iff]
  omega

/-- The remainder overflows exactly with the quotient, by its definition. -/
theorem rem?_of_quot? (hb : b.toInt ≠ 0) :
    (quot? a b = none → rem? a b = none) ∧
      ∀ q, quot? a b = some q → ∃ r, rem? a b = some r ∧ r.toInt = a.toInt.tmod b.toInt := by
  constructor
  · intro h
    rw [rem?, h]
    rfl
  · intro q h
    obtain ⟨r, hr⟩ := exists_toInt_tmod (a := a) hb
    refine ⟨r, ?_, hr⟩
    rw [rem?, h]
    exact ofInt?_eq_some_iff.mpr hr

theorem sign_tmod_eq (s t : Int) : s.tmod t = 0 ∨ (s.tmod t).sign = s.sign := by
  rw [Int.sign_tmod]
  by_cases h : t ∣ s
  · exact .inl (Int.tmod_eq_zero_of_dvd h)
  · exact .inr (if_neg h)

end WholeNumber

/-! ### The operators -/

theorem eval_whole_arithmetic (op : Arithmetic) (hx : eval env x = .ok (.present (.wholeNumber a)))
    (hy : eval env y = .ok (.present (.wholeNumber b))) :
    eval env (.arithmetic op x y) =
      op.onWhole a b >>= fun n => .ok (.present (.wholeNumber n)) := by
  have hdomain : op.domain? .wholeNumber .wholeNumber = some .wholeNumber := by cases op <;> rfl
  rw [eval_arithmetic_of_present op hx hy, Value.kind, Value.kind, hdomain]
  exact bind_assoc _ _ _

theorem eval_whole_negate (hx : eval env x = .ok (.present (.wholeNumber a))) :
    eval env (.unary .negate x) =
      orOverflow "negate" a.neg? >>= fun n => .ok (.present (.wholeNumber n)) := by
  rw [eval_unary_of_present _ hx]
  exact bind_assoc _ _ _

/-- Quotient and remainder belong together, zero and overflow included. -/
theorem divides_onWhole (a b : WholeNumber) :
    Divides a b (Arithmetic.divide.onWhole a b >>= fun n => .ok (.present (.wholeNumber n)))
      (Arithmetic.mod.onWhole a b >>= fun n => .ok (.present (.wholeNumber n))) := by
  simp only [Arithmetic.onWhole]
  by_cases hb : b.toInt = 0
  · have hminus : ¬(a.toInt = -0x8000000000000000 ∧ b.toInt = -1) := by omega
    simp only [hb, if_true]
    exact ⟨iff_of_true rfl hb, iff_of_true rfl hb, iff_of_false nofun hminus,
      iff_of_false nofun hminus, fun h => absurd hb h⟩
  obtain ⟨hnone, hsome⟩ := WholeNumber.rem?_of_quot? (a := a) hb
  have hquot := WholeNumber.quot?_eq_none_iff (a := a) hb
  simp only [hb, if_false]
  cases hq : a.quot? b with
  | none =>
    -- the one quotient out of range, where the remainder is refused as well
    have hleast : a.toInt = -0x8000000000000000 ∧ b.toInt = -1 := hquot.mp hq
    rw [hnone hq]
    exact ⟨iff_of_false nofun hb, iff_of_false nofun hb, iff_of_true rfl hleast,
      iff_of_true rfl hleast, fun _ h => absurd hleast h⟩
  | some q =>
    have hleast : ¬(a.toInt = -0x8000000000000000 ∧ b.toInt = -1) := by
      rw [← hquot, hq]
      nofun
    obtain ⟨r, hr, hmod⟩ := hsome q hq
    -- both are those of truncated division
    have hdiv : q.toInt = a.toInt.tdiv b.toInt := WholeNumber.ofInt?_eq_some_iff.mp hq
    rw [hr]
    refine ⟨iff_of_false nofun hb, iff_of_false nofun hb, iff_of_false nofun hleast,
      iff_of_false nofun hleast, fun _ _ => ⟨q, r, rfl, rfl, ?_, ?_, ?_⟩⟩
    · rw [hdiv, hmod, Int.mul_tdiv_add_tmod]
    · rw [hmod]
      exact WholeNumber.natAbs_tmod_lt _ hb
    · rw [hmod]
      exact WholeNumber.sign_tmod_eq _ _

/-- Sums, differences, products and negations of whole numbers are exact, or overflow just if the
exact number leaves the range. A division and its remainder fail for the same operands, for a zero
divisor and for the least number by minus one, and otherwise make up the dividend, where the
remainder is smaller than the divisor and has the sign of the dividend. -/
theorem whole_arithmetic_exact (hx : eval env x = .ok (.present (.wholeNumber a)))
    (hy : eval env y = .ok (.present (.wholeNumber b))) :
    YieldsWhole "plus" (a.toInt + b.toInt) (eval env (.arithmetic .plus x y)) ∧
    YieldsWhole "minus" (a.toInt - b.toInt) (eval env (.arithmetic .minus x y)) ∧
    YieldsWhole "multiply" (a.toInt * b.toInt) (eval env (.arithmetic .multiply x y)) ∧
    YieldsWhole "negate" (-a.toInt) (eval env (.unary .negate x)) ∧
    Divides a b (eval env (.arithmetic .divide x y)) (eval env (.arithmetic .mod x y)) := by
  rw [eval_whole_arithmetic .plus hx hy, eval_whole_arithmetic .minus hx hy,
    eval_whole_arithmetic .multiply hx hy, eval_whole_arithmetic .divide hx hy,
    eval_whole_arithmetic .mod hx hy, eval_whole_negate hx]
  exact ⟨WholeNumber.yieldsWhole_ofInt? _ _, WholeNumber.yieldsWhole_ofInt? _ _,
    WholeNumber.yieldsWhole_ofInt? _ _, WholeNumber.yieldsWhole_ofInt? _ _, divides_onWhole a b⟩

/-- The least number and minus one overflow in all but the sum, and of the sum and minus two the
remainder is minus one. -/
theorem whole_arithmetic_exact_at_least :
    let minusOne : WholeNumber := ⟨-1, by decide, by decide⟩
    let minusTwo : WholeNumber := ⟨-2, by decide, by decide⟩
    let odd : WholeNumber := ⟨-0x7FFFFFFFFFFFFFFF, by decide, by decide⟩
    let literal (n : WholeNumber) := Expr.literal (.present (.wholeNumber n))
    let on (op : Arithmetic) (a b : WholeNumber) :=
      eval .constant (.arithmetic op (literal a) (literal b))
    on .plus .least minusOne = .error (.overflow "plus") ∧
    on .multiply .least minusOne = .error (.overflow "multiply") ∧
    eval .constant (.unary .negate (literal .least)) = .error (.overflow "negate") ∧
    on .divide .least minusOne = .error (.overflow "divide") ∧
    on .mod .least minusOne = .error (.overflow "mod") ∧
    ∃ q r : WholeNumber, on .divide odd minusTwo = .ok (.present (.wholeNumber q)) ∧
      on .mod odd minusTwo = .ok (.present (.wholeNumber r)) ∧
      odd.toInt = -2 * q.toInt + r.toInt ∧ r.toInt.natAbs < 2 ∧
        (r.toInt = 0 ∨ r.toInt.sign = -1) := by
  intro minusOne minusTwo odd literal on
  have hvalue (n : WholeNumber) :
    eval .constant (literal n) = .ok (.present (.wholeNumber n)) := rfl
  obtain ⟨hplus, -, hmultiply, hnegate, hdivides⟩ :=
    whole_arithmetic_exact (hvalue .least) (hvalue minusOne)
  obtain ⟨-, -, -, -, hodd⟩ := whole_arithmetic_exact (hvalue odd) (hvalue minusTwo)
  exact ⟨hplus.beyond (by decide), hmultiply.beyond (by decide), hnegate.beyond (by decide),
    hdivides.quotient_overflows.mpr (by decide), hdivides.remainder_overflows.mpr (by decide),
    hodd.exact (by decide) (by decide)⟩

end RecordExpr
