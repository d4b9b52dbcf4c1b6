import RecordExpr.Proofs.Date.Nanos
import RecordExpr.Proofs.Eval.Kind

/-!
# Dates as milliseconds since 1970

A whole number becomes the date that many milliseconds after the beginning of 1970, and a date
becomes the number of its milliseconds, rounded toward the past. The two conversions undo each other
as far as they can (`epoch_millis_round_trip`): from a number back to itself wherever the calendar
reaches it, and from a date to the whole millisecond at or before it. The latter never fails, since
both ends of the calendar are whole milliseconds (`Instant.inCalendar_millis`).
-/

namespace RecordExpr

variable {env : Environment} {x y z : Expr} {n m : WholeNumber} {d i j : Instant}
  {f g : Option String}

/-! ### The conversions -/

theorem eval_date_of_millis (hx : eval env x = .ok (.present (.wholeNumber n))) :
    eval env (.convert .date x f) = dateOfMillis n >>= fun i => .ok (.present (.date i)) := by
  rw [eval_convert_of_present _ _ hx]
  exact bind_assoc _ _ _

theorem eval_millis_of_date (hx : eval env x = .ok (.present (.date d))) :
    eval env (.convert .wholeNumber x g) = .ok (.present (.wholeNumber d.millis)) := by
  rw [eval_convert_of_present _ _ hx]
  rfl

/-- A number becomes a date just if the calendar reaches that far. -/
theorem eval_date_of_millis_eq_ok_iff (hx : eval env x = .ok (.present (.wholeNumber n))) :
    eval env (.convert .date x f) = .ok (.present (.date i)) ↔
      i.isLeap = false ∧ i.nanos = n.toInt * nanosPerMilli := by
  rw [eval_date_of_millis hx, ← Instant.ofMillis?_eq_some_iff, dateOfMillis]
  cases Instant.ofMillis? n.toInt <;> simp [orCoercionError, bind, Except.bind]

/-- Milliseconds beyond the calendar are refused with their text. -/
theorem eval_date_of_millis_of_beyond (hx : eval env x = .ok (.present (.wholeNumber n)))
    (h : ¬Instant.InCalendar (n.toInt * nanosPerMilli)) :
    eval env (.convert .date x f) = .error (.coercionFailed n.render .date) := by
  rw [eval_date_of_millis hx, dateOfMillis, Instant.ofMillis?_eq_none_iff.mpr h]
  rfl

/-! ### There and back -/

/-- From a number to a date and back. -/
theorem eval_millis_of_date_of_millis (hx : eval env x = .ok (.present (.wholeNumber n)))
    (hi : eval env (.convert .date x f) = .ok (.present (.date i))) :
    eval env (.convert .wholeNumber (.convert .date x f) g) = .ok (.present (.wholeNumber n)) := by
  obtain ⟨-, hnanos⟩ := (eval_date_of_millis_eq_ok_iff hx).mp hi
  have hmillis : i.millis = n := by
    refine WholeNumber.ext ?_
    rw [Instant.toInt_millis, hnanos, Int.mul_ediv_cancel _ (by decide)]
  rw [eval_millis_of_date hi, hmillis]

/-- From a date to a number and back. -/
theorem exists_eval_date_of_millis_of_date (hz : eval env z = .ok (.present (.date d)))
    (hd : d.isLeap = false) :
    ∃ i, eval env (.convert .date (.convert .wholeNumber z g) f) = .ok (.present (.date i)) ∧
      i.isLeap = false ∧ i.nanos = d.nanos / nanosPerMilli * nanosPerMilli := by
  obtain ⟨i, hi, hnanos⟩ := Instant.exists_nanos_iff.mpr (Instant.inCalendar_millis hd)
  refine ⟨i, (eval_date_of_millis_eq_ok_iff (eval_millis_of_date hz)).mpr ⟨hi, ?_⟩, hi, hnanos⟩
  rw [Instant.toInt_millis, hnanos]

/-- A whole number becomes the date that many milliseconds after the beginning of 1970, which
becomes that number again, or fails to become a date if the calendar does not reach that far. The
larger of two numbers becomes the later date. Outside of leap seconds every date becomes a number
that becomes a date again, and that is the date before, rounded toward the past to a whole
millisecond. -/
theorem epoch_millis_round_trip (hx : eval env x = .ok (.present (.wholeNumber n)))
    (hy : eval env y = .ok (.present (.wholeNumber m)))
    (hz : eval env z = .ok (.present (.date d))) (f g : Option String) :
    (¬Instant.InCalendar (n.toInt * nanosPerMilli) ∧
        eval env (.convert .date x f) = .error (.coercionFailed n.render .date) ∨
      ∃ i, eval env (.convert .date x f) = .ok (.present (.date i)) ∧
        eval env (.convert .wholeNumber (.convert .date x f) g) =
          .ok (.present (.wholeNumber n))) ∧
    (∀ i j, eval env (.convert .date x f) = .ok (.present (.date i)) →
      eval env (.convert .date y f) = .ok (.present (.date j)) → n.toInt < m.toInt →
        i.compare j = .lt) ∧
    (d.isLeap = false →
      ∃ i, eval env (.convert .date (.convert .wholeNumber z g) f) = .ok (.present (.date i)) ∧
        i.isLeap = false ∧ i.nanos = d.nanos / nanosPerMilli * nanosPerMilli) := by
  refine ⟨?_, fun i j hi hj hlt => ?_, exists_eval_date_of_millis_of_date hz⟩
  · -- the calendar ends long before the whole numbers do
    by_cases h : Instant.InCalendar (n.toInt * nanosPerMilli)
    · obtain ⟨i, hi⟩ := Instant.exists_nanos_iff.mpr h
      have hdate := (eval_date_of_millis_eq_ok_iff (f := f) hx).mpr hi
      exact .inr ⟨i, hdate, eval_millis_of_date_of_millis hx hdate⟩
    · exact .inl ⟨h, eval_date_of_millis_of_beyond hx h⟩
  · obtain ⟨hi, hn⟩ := (eval_date_of_millis_eq_ok_iff hx).mp hi
    obtain ⟨hj, hm⟩ := (eval_date_of_millis_eq_ok_iff hy).mp hj
    rw [Instant.compare_eq_lt_iff hi hj, hn, hm]
    exact Int.mul_lt_mul_of_pos_right hlt (by decide)

/-- One millisecond before 1970 and its beginning, the last millisecond that fits into 64 bits, and
the last nanosecond before 1970, which is in the millisecond before. -/
theorem epoch_millis_round_trip_before_1970 :
    let d : Instant := ⟨-1, 999999999, by decide, by decide, by decide, by decide⟩
    let before : WholeNumber := ⟨-1, by decide, by decide⟩
    let literal (v : Value) := Expr.literal (.present v)
    let date (n : WholeNumber) := Expr.convert .date (literal (.wholeNumber n)) none
    (∃ i, eval .constant (date before) = .ok (.present (.date i)) ∧
      eval .constant (.convert .wholeNumber (date before) none) =
        .ok (.present (.wholeNumber before)) ∧
      i.compare .epoch = .lt) ∧
    eval .constant (date .greatest) =
      .error (.coercionFailed WholeNumber.greatest.render .date) ∧
    d.isLeap = false ∧
    ∃ i, eval .constant (.convert .date (.convert .wholeNumber (literal (.date d)) none) none) =
      .ok (.present (.date i)) ∧ i.nanos = -1000000 := by
  intro d before literal date
  have hd : d.isLeap = false := by decide
  have hvalue (v : Value) : eval .constant (literal v) = .ok (.present v) := rfl
  obtain ⟨hback, hless, hfloor⟩ := epoch_millis_round_trip (hvalue (.wholeNumber before))
    (hvalue (.wholeNumber .zero)) (hvalue (.date d)) none none
  obtain ⟨hbeyond, -, -⟩ := epoch_millis_round_trip (hvalue (.wholeNumber .greatest))
    (hvalue (.wholeNumber .zero)) (hvalue (.date d)) none none
  refine ⟨?_, ?_, hd, ?_⟩
  · rcases hback with ⟨h, -⟩ | ⟨i, hi, hn⟩
    · exact absurd (by decide) h
    · exact ⟨i, hi, hn, hless i .epoch hi rfl (by decide)⟩
  · rcases hbeyond with ⟨-, h⟩ | ⟨i, hi, -⟩
    · exact h
    · cases (show eval .constant (date .greatest) =
        .error (.coercionFailed WholeNumber.greatest.render .date) from rfl).symm.trans hi
  · obtain ⟨i, hi, -, hnanos⟩ := hfloor hd
    exact ⟨i, hi, hnanos⟩

end RecordExpr
