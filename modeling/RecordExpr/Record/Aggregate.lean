import RecordExpr.Record.Failure

/-!
# Aggregates

An aggregate is a decimal that takes in one value after another. An expression computes the next
aggregate from the value, the aggregate so far and the number of values, which it sees as
attributes.

The main definitions are `Aggregate.step` and `Aggregate.fold`.
-/

namespace RecordExpr

structure Aggregate where
  expr : Expr
  config : Config

namespace Aggregate

/-- The attribute with the value. -/
def valueName : String := "rolling_value_state"

/-- The attribute with the aggregate so far. -/
def aggregateName : String := "aggregate_value_state"

/-- The attribute with the number of values. -/
def countName : String := "count_state"

/-- An aggregate whose expression is valid and a number. -/
def new (expr : Expr) (config : Config) : Except Failure Aggregate := do
  requireValid .aggregate (validate expr)
  if expr.kind.isNumeric then return ⟨expr, config⟩ else throw (.notNumeric expr.kind)

/-- The aggregate with another configuration. -/
def withConfig (a : Aggregate) (config : Config) : Aggregate := { a with config }

/-- What the expression sees of a step. -/
def stepLookup (aggregate : Decimal) (value : String) (count : Nat) : Lookup := fun name =>
  if name = valueName then some value
  else if name = aggregateName then some aggregate.render
  else if name = countName then some (toString count)
  else none

/-- The aggregate with one more value. -/
def step (a : Aggregate) (aggregate : Decimal) (value : String) (count : Nat) (now : Instant) :
    Except Failure Decimal := do
  let env : Environment := ⟨stepLookup aggregate value count, now, a.config⟩
  let r ← orFailure (.aggregation value) (eval env a.expr)
  match r.value?.bind Value.widen? with
  | some d => return d
  | none => throw (.noNumber value)

/-- The aggregate of some values. -/
def fold (a : Aggregate) (values : List String) (count : Nat) (now : Instant) :
    Except Failure Decimal :=
  values.foldlM (fun aggregate value => a.step aggregate value count now) (.zero false)

end Aggregate

end RecordExpr
