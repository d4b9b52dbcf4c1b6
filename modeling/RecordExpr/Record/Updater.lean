import RecordExpr.Record.Failure
import RecordExpr.Dictionary

/-!
# Updating records

An updater keeps variables from record to record. For each record it evaluates the variables in the
order of their names and then the value of an attribute. An expression sees the variables as they
are by then, and below them the attributes of the record.

The main definitions are `Updater.withVariable`, `Updater.apply` and `Updater.update`, which does in
place what `apply` computes.
-/

namespace RecordExpr

/-- The texts of variables by name. -/
abbrev State := Dictionary String

structure Updater where
  /-- the attribute that is written -/
  target : String
  value : Expr
  vars : Dictionary Expr
  config : Config

/-- The attribute to write into a record, and its text unless that is absent. -/
structure Update where
  target : String
  value : Option String
  deriving DecidableEq

namespace Updater

/-- The updater of an attribute, whose value must be valid. -/
def new (target : String) (value : Expr) (config : Config) : Except Failure Updater := do
  requireValid (.attr target) (validate value)
  return ⟨target, value, .empty, config⟩

/-- The updater with a variable, in the place of any of the same name. -/
def withVariable (u : Updater) (name : String) (e : Expr) : Except Failure Updater := do
  requireValid (.var name) (validate e)
  return { u with vars := u.vars.insert name e }

/-- The updater with another configuration. -/
def withConfig (u : Updater) (config : Config) : Updater := { u with config }

/-- The state before the first record. -/
def initialState (u : Updater) : State := Dictionary.ofList (u.vars.names.map (·, "0"))

/-- The text of an expression for a record and a state. -/
def textFor (u : Updater) (state : State) (record : Lookup) (now : Instant) (purpose : Purpose)
    (e : Expr) : Except Failure (Option String) :=
  orFailure (.evaluation purpose) do
    (← eval ⟨Lookup.over state.get? record, now, u.config⟩ e).render u.config.dateFormat

/-- The state with the new text of one variable. -/
def stepVariable (u : Updater) (record : Lookup) (now : Instant) (state : State)
    (v : String × Expr) : Except Failure State := do
  match ← u.textFor state record now (.var v.1) v.2 with
  | some text => return state.insert v.1 text
  | none => return state.erase v.1

/-- The update for a record and the new state. If anything fails there is no new state. -/
def apply (u : Updater) (state : State) (record : Lookup) (now : Instant) :
    Except Failure (Update × State) := do
  let state ← u.vars.entries.foldlM (u.stepVariable record now) state
  let value ← u.textFor state record now (.attr u.target) u.value
  return (⟨u.target, value⟩, state)

/-- The update for a record, with the state changed in place. Variables are worked on in a copy of
the state, which replaces it after everything has been evaluated. -/
def update (u : Updater) (record : Lookup) (now : Instant) :
    ExceptT Failure (StateM State) Update := do
  let (update, state) ← u.apply (← get) record now
  set state
  return update

end Updater

end RecordExpr
