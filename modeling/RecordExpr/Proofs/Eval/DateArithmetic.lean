import RecordExpr.Proofs.Date.Nanos
import RecordExpr.Proofs.Eval.Kind

/-!
# Date arithmetic

Arithmetic on dates counts in milliseconds. Outside of leap seconds it is exact arithmetic of the
nanoseconds since the beginning of 1970 (`date_arithmetic_by_nanos`): an offset leads to the instant
at the sum or the difference, or overflows where the calendar has no such instant, and the distance
of two dates is their difference, cut off toward zero. So an offset can be undone, and read off
again.

The three operators share one node. Which of them it is follows from the values, by
`eval_arithmetic_of_present`.
-/

namespace RecordExpr

variable {env : Environment} {x y z : Expr} {d e : Instant} {n : WholeNumber}

/-- An operator leads to the instant at some nanosecond, or overflows if that is beyond the
calendar. -/
structure ShiftsTo (op : Arithmetic) (t : Int) (outcome : Except EvalError Result) : Prop where
  within : Instant.InCalendar t →
    ∃ i : Instant, i.isLeap = false ∧ i.nanos = t ∧ outcome = .ok (.present (.date i))
  beyond : ¬Instant.InCalendar t → outcome = .error (.overflow op.name)

/-! ### The operators -/

/-- Dates and whole numbers at work in the evaluator, here and in the next lemmas. -/
theorem eval_date_plus (hx : eval env x = .ok (.present (.date d)))
    (hy : eval env y = .ok (.present (.wholeNumber n))) :
    eval env (.arithmetic .plus x y) =
      orOverflow Arithmetic.plus.name (d.addMillis? n.toInt) >>= fun i =>
        .ok (.present (.date i)) := by
  rw [eval_arithmetic_of_present _ hx hy]
  exact bind_assoc _ _ _

theorem eval_date_minus (hx : eval env x = .ok (.present (.date d)))
    (hy : eval env y = .ok (.present (.wholeNumber n))) :
    eval env (.arithmetic .minus x y) =
      orOverflow Arithmetic.minus.name (d.addMillis? (-n.toInt)) >>= fun i =>
        .ok (.present (.date i)) := by
  rw [eval_arithmetic_of_present _ hx hy]
  exact bind_assoc _ _ _

theorem eval_date_difference (hx : eval env x = .ok (.present (.date d)))
    (hz : eval env z = .ok (.present (.date e))) :
    eval env (.arithmetic .minus x z) = .ok (.present (.wholeNumber (d.millisSince e))) := by
  rw [eval_arithmetic_of_present _ hx hz]
  rfl

theorem eval_date_greaterThan (hx : eval env x = .ok (.present (.date d)))
    (hz : eval env z = .ok (.present (.date e))) :
    eval env (.compare .greaterThan x z) = .ok (.present (.boolean (d.compare e == .gt))) := by
  rw [eval_compare_of_present _ hx hz]
  rfl

/-! ### Offsets -/

/-- What adding milliseconds leads to. -/
theorem shiftsTo_addMillis? (op : Arithmetic) (hd : d.isLeap = false) (k : Int) :
    ShiftsTo op (d.nanos + k * nanosPerMilli)
      (orOverflow op.name (d.addMillis? k) >>= fun i => .ok (.present (.date i))) := by
  constructor
  · intro h
    obtain ⟨i, hi, hnanos⟩ := Instant.exists_nanos_iff.mpr h
    have hadd : d.addMillis? k = some i := (Instant.addMillis?_eq_some_iff hd).mpr ⟨hi, hnanos⟩
    exact ⟨i, hi, hnanos, by rw [hadd]; rfl⟩
  · intro h
    rw [(Instant.addMillis?_eq_none_iff hd).mpr h]
    rfl

/-- A date that has been moved tells the offset and the date that it was. -/
theorem eval_of_date_plus (hx : eval env x = .ok (.present (.date d)))
    (hy : eval env y = .ok (.present (.wholeNumber n))) (hd : d.isLeap = false) {r : Result}
    (h : eval env (.arithmetic .plus x y) = .ok r) :
    eval env (.arithmetic .minus (.arithmetic .plus x y) y) = .ok (.present (.date d)) ∧
      eval env (.arithmetic .minus (.arithmetic .plus x y) x) =
        .ok (.present (.wholeNumber n)) := by
  have hplus := h
  rw [eval_date_plus hx hy] at hplus
  cases hadd : d.addMillis? n.toInt with
  | none =>
    rw [hadd] at hplus
    cases hplus
  | some i =>
    rw [hadd] at hplus
    cases hplus
    constructor
    · -- the sum is no leap second, so the way back is exact
      rw [eval_date_minus h hy, Instant.addMillis?_neg hd hadd]
      rfl
    · rw [eval_date_difference h hx,
        WholeNumber.ext (Instant.toInt_millisSince_of_addMillis? hd hadd)]

/-! ### All of it -/

/-- Outside of leap seconds, `plus` and `minus` move a date by exactly that many milliseconds, or
overflow just if the calendar does not reach that far. Taking off what has been added leads back,
and the distance from the date before is what has been added. The distance of two dates always
exists: it is the exact one, cut off toward zero, and has the other sign the other way round; from
an earlier date it is not negative. -/
theorem date_arithmetic_by_nanos (hx : eval env x = .ok (.present (.date d)))
    (hy : eval env y = .ok (.present (.wholeNumber n)))
    (hz : eval env z = .ok (.present (.date e))) (hd : d.isLeap = false) (he : e.isLeap = false) :
    ShiftsTo .plus (d.nanos + n.toInt * nanosPerMilli) (eval env (.arithmetic .plus x y)) ∧
    ShiftsTo .minus (d.nanos - n.toInt * nanosPerMilli) (eval env (.arithmetic .minus x y)) ∧
    (∀ r, eval env (.arithmetic .plus x y) = .ok r →
      eval env (.arithmetic .minus (.arithmetic .plus x y) y) = .ok (.present (.date d)) ∧
      eval env (.arithmetic .minus (.arithmetic .plus x y) x) =
        .ok (.present (.wholeNumber n))) ∧
    ∃ m m' : WholeNumber,
      eval env (.arithmetic .minus x z) = .ok (.present (.wholeNumber m)) ∧
      eval env (.arithmetic .minus z x) = .ok (.present (.wholeNumber m')) ∧
      m.toInt = (d.nanos - e.nanos).tdiv nanosPerMilli ∧ m'.toInt = -m.toInt ∧
      (eval env (.compare .greaterThan x z) = .ok (.present (.boolean true)) → 0 ≤ m.toInt) := by
  refine ⟨?_, ?_, fun r hr => eval_of_date_plus hx hy hd hr, d.millisSince e, e.millisSince d,
    eval_date_difference hx hz, eval_date_difference hz hx, Instant.toInt_millisSince hd he,
    Instant.toInt_millisSince_swap hd he, fun h => ?_⟩
  · rw [eval_date_plus hx hy]
    exact shiftsTo_addMillis? .plus hd n.toInt
  · rw [eval_date_minus hx hy, Int.sub_eq_add_neg, ← Int.neg_mul]
    exact shiftsTo_addMillis? .minus hd (-n.toInt)
  · rw [eval_date_greaterThan hx hz] at h
    have hgt : (d.compare e == .gt) = true := by
      injection h with h
      injection h with h
      injection h
    exact Instant.toInt_millisSince_nonneg hd he (eq_of_beq hgt)

/-- From half a millisecond before 1970 one millisecond leads to half a millisecond after it, which
is no whole millisecond away from 1970, and the largest offset leads out of the calendar. -/
theorem date_arithmetic_by_nanos_before_1970 :
    let d : Instant := ⟨-1, 999500000, by decide, by decide, by decide, by decide⟩
    let x := Expr.literal (.present (.date d))
    let z := Expr.literal (.present (.date .epoch))
    let one : WholeNumber := ⟨1, by decide, by decide⟩
    let most : WholeNumber := ⟨0x7FFFFFFFFFFFFFFF, by decide, by decide⟩
    let offset (n : WholeNumber) := Expr.literal (.present (.wholeNumber n))
    d.isLeap = false ∧
    (∃ i : Instant, i.isLeap = false ∧ i.nanos = 500000 ∧
      eval .constant (.arithmetic .plus x (offset one)) = .ok (.present (.date i))) ∧
    eval .constant (.arithmetic .minus (.arithmetic .plus x (offset one)) x) =
      .ok (.present (.wholeNumber one)) ∧
    eval .constant (.arithmetic .minus x (offset most)) = .error (.overflow "minus") ∧
    ∃ m : WholeNumber, m.toInt = 0 ∧
      eval .constant (.arithmetic .minus x z) = .ok (.present (.wholeNumber m)) := by
  intro d x z one most offset
  have hd : d.isLeap = false := by decide
  obtain ⟨hplus, _, hback, m, _, hm, _, hdiff, _⟩ :=
    date_arithmetic_by_nanos (rfl : eval .constant x = .ok (.present (.date d)))
      (rfl : eval .constant (offset one) = .ok (.present (.wholeNumber one)))
      (rfl : eval .constant z = .ok (.present (.date .epoch))) hd (by decide)
  obtain ⟨_, hminus, _⟩ :=
    date_arithmetic_by_nanos (rfl : eval .constant x = .ok (.present (.date d)))
      (rfl : eval .constant (offset most) = .ok (.present (.wholeNumber most)))
      (rfl : eval .constant z = .ok (.present (.date .epoch))) hd (by decide)
  obtain ⟨i, hi, hnanos, hsum⟩ := hplus.within (by decide)
  exact ⟨hd, ⟨i, hi, hnanos, hsum⟩, (hback _ hsum).2, hminus.beyond (by decide), m, hdiff, hm⟩

end RecordExpr
