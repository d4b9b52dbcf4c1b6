import RecordExpr.Record.Updater

/-!
# Runs of an updater

A run takes one record after another and updates the state in place (`Updater.run`). A step may fail
at any variable, or at the value, when the variables before have got their new texts already. These
were written to a copy of the state, so the state is as it was before the step
(`Updater.state_of_update_error`). Hence nothing that comes after a failing step can tell that there
was one: without the failing steps a run has the same outcomes in the others, and ends in the same
state (`Updater.run_successes`, by induction from what one step can do, `Updater.update_cases`).
-/

namespace RecordExpr.Updater

variable {u : Updater} {step : Lookup × Instant} {steps : List (Lookup × Instant)}
  {state next : State} {outcome : Except Failure Update}

/-- The outcomes of some steps, each of which updates the state that those before it have left. -/
def run (u : Updater) (steps : List (Lookup × Instant)) :
    StateM State (List (Except Failure Update)) :=
  steps.mapM fun step => (u.update step.1 step.2).run

/-- The steps of a run that succeed, in their order. -/
def successes (u : Updater) (steps : List (Lookup × Instant)) (state : State) :
    List (Lookup × Instant) :=
  ((steps.zip ((u.run steps).run state).1).filter (·.2.isOk)).map (·.1)

/-! ### One step -/

theorem run_update (u : Updater) (record : Lookup) (now : Instant) (state : State) :
    (u.update record now).run.run state =
      match u.apply state record now with
      | .ok (update, next) => (.ok update, next)
      | .error failure => (.error failure, state) := by
  let commit : Update × State → ExceptT Failure (StateM State) Update := fun r => do
    set r.2
    return r.1
  show (liftM (u.apply state record now) >>= commit).run.run state = _
  cases u.apply state record now <;> rfl

/-- Everything that a step can do: it replaces the state by the one that is computed for it, or it
fails and leaves the state as it was. -/
theorem update_cases (u : Updater) (record : Lookup) (now : Instant) (state : State) :
    (∃ update next, u.apply state record now = .ok (update, next) ∧
      (u.update record now).run.run state = (.ok update, next)) ∨
    ∃ failure, u.apply state record now = .error failure ∧
      (u.update record now).run.run state = (.error failure, state) := by
  rw [run_update]
  cases u.apply state record now with
  | ok r => exact .inl ⟨r.1, r.2, rfl, rfl⟩
  | error failure => exact .inr ⟨failure, rfl, rfl⟩

theorem state_of_update_error {record : Lookup} {now : Instant} {failure : Failure}
    (h : (u.update record now).run.run state = (.error failure, next)) : next = state := by
  rcases u.update_cases record now state with ⟨_, _, _, hu⟩ | ⟨_, _, hu⟩
  · cases h.symm.trans hu
  · cases h.symm.trans hu
    rfl

/-! ### All steps -/

theorem run_cons (h : (u.update step.1 step.2).run.run state = (outcome, next)) :
    (u.run (step :: steps)).run state =
      (outcome :: ((u.run steps).run next).1, ((u.run steps).run next).2) := by
  have hrun : (u.run (step :: steps)).run state =
      let first := (u.update step.1 step.2).run.run state
      (first.1 :: ((u.run steps).run first.2).1, ((u.run steps).run first.2).2) := by
    rw [run, List.mapM_cons]
    rfl
  rw [hrun, h]

theorem successes_cons (h : (u.update step.1 step.2).run.run state = (outcome, next)) :
    u.successes (step :: steps) state =
      if outcome.isOk then step :: u.successes steps next else u.successes steps next := by
  rw [successes, run_cons h, List.zip_cons_cons, List.filter_cons]
  split <;> rfl

theorem run_successes_eq (u : Updater) (steps : List (Lookup × Instant)) (state : State) :
    (u.run (u.successes steps state)).run state =
      (((u.run steps).run state).1.filter (·.isOk), ((u.run steps).run state).2) := by
  induction steps generalizing state with
  | nil => rfl
  | cons step steps ih =>
    rcases u.update_cases step.1 step.2 state with ⟨update, next, _, h⟩ | ⟨failure, _, h⟩
    · have hs : u.successes (step :: steps) state = step :: u.successes steps next :=
        successes_cons h
      rw [hs, run_cons h, run_cons h, ih next]
      rfl
    · -- the rest of the run starts from the same state without the step
      have hs : u.successes (step :: steps) state = u.successes steps state := successes_cons h
      rw [hs, run_cons h, ih state]
      rfl

/-- A step that fails leaves the state as it was. So the steps of a run that succeed have the same
outcomes, and lead to the same state, if they are the only ones. -/
theorem run_successes (u : Updater) (steps : List (Lookup × Instant)) (state : State) :
    (∀ record now before failure after,
      (u.update record now).run.run before = (.error failure, after) → after = before) ∧
    (u.run (u.successes steps state)).run state =
      (((u.run steps).run state).1.filter (·.isOk), ((u.run steps).run state).2) :=
  ⟨fun _ _ _ _ _ h => state_of_update_error h, run_successes_eq u steps state⟩

/-- The second of three records gives a new text to one variable and then fails at the next. -/
theorem run_successes_second_fails :
    let u : Updater := ⟨"sum", .attr "x",
      (Dictionary.empty.insert "x" (.attr "first")).insert "y"
        (.convert .wholeNumber (.attr "second") none), .default⟩
    let step (first second : String) : Lookup × Instant :=
      (((Dictionary.empty.insert "first" first).insert "second" second).get?, .epoch)
    (∃ failure after, (u.update (step "5" "?").1 .epoch).run.run u.initialState =
      (.error failure, after) ∧ after = u.initialState) ∧
    (u.run [step "1" "2", step "3" "4"]).run u.initialState =
      let all := (u.run [step "1" "2", step "5" "?", step "3" "4"]).run u.initialState
      (all.1.filter (·.isOk), all.2) := by
  intro u step
  obtain ⟨hstep, hrun⟩ :=
    u.run_successes [step "1" "2", step "5" "?", step "3" "4"] u.initialState
  have h : (u.update (step "5" "?").1 .epoch).run.run u.initialState =
      (.error (.evaluation (.var "y") (.coercionFailed "?" .wholeNumber)), u.initialState) := rfl
  exact ⟨⟨_, _, h, hstep _ _ _ _ _ h⟩, hrun⟩

end RecordExpr.Updater
