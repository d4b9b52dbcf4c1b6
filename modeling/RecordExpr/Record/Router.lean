import RecordExpr.Record.Failure

/-!
# Routing records

A router has named rules, each of them a condition. For a record it decides by its strategy where
the record goes: to every rule that holds, or to one place if all rules hold, or if any does. An
absent condition does not hold, and a rule that cannot be evaluated makes the routing fail.

The main definitions are `Router.add`, `Router.offer`, which does in place what `add` computes, and
`Router.route`.
-/

namespace RecordExpr

inductive Strategy
  /-- to every rule that holds, by its name -/
  | byName
  /-- to one place if all rules hold; rules after the first that does not are not evaluated -/
  | all
  /-- to one place if a rule holds; rules after the first that does are not evaluated -/
  | any
  deriving DecidableEq

/-- The place for records that all rules or any rule holds for. -/
def matchedName : String := "matched"

/-- The place for records that no rule holds for. -/
def unmatchedName : String := "unmatched"

/-- The place for records that a rule could not be evaluated for. -/
def failureName : String := "failure"

/-- The names that rules cannot have. -/
def reservedNames : List String := [matchedName, unmatchedName, failureName]

/-- Where a record goes. -/
inductive Route
  | matched (names : List String)
  | unmatched
  | failed (rule : String) (error : EvalError)
  deriving DecidableEq

/-- The names of the places that a record goes to. -/
def Route.places : Route → List String
  | matched names => names
  | unmatched => [unmatchedName]
  | failed _ _ => [failureName]

structure Rule where
  name : String
  condition : Expr

structure Router where
  strategy : Strategy
  /-- in the order in which they were added -/
  rules : List Rule
  config : Config

namespace Router

def new (strategy : Strategy) (config : Config) : Router := ⟨strategy, [], config⟩

/-- The router with another configuration. -/
def withConfig (r : Router) (config : Config) : Router := { r with config }

def ruleNames (r : Router) : List String := r.rules.map (·.name)

/-- The router with one more rule, whose condition must be valid and Boolean. -/
def add (r : Router) (name : String) (condition : Expr) : Except Failure Router :=
  if reservedNames.contains name then .error (.reservedRule name)
  else if r.ruleNames.contains name then .error (.duplicateRule name)
  else do
    requireValid (.rule name) (validateAs condition .boolean)
    return { r with rules := r.rules ++ [⟨name, condition⟩] }

/-- Adds a rule in place. A router that refuses a rule stays as it is. -/
def offer (name : String) (condition : Expr) : ExceptT Failure (StateM Router) Unit := do
  set (← (← get).add name condition)

/-- Where a record goes by some rules, after those in `names` have held. `holds` is the outcome of a
rule's condition. -/
def routeBy (strategy : Strategy) (holds : Expr → Except EvalError Result) (names : List String) :
    List Rule → Route
  | [] =>
    match strategy with
    | .byName => if names.isEmpty then .unmatched else .matched names
    | .all => .matched [matchedName]
    | .any => .unmatched
  | rule :: rules =>
    match holds rule.condition with
    | .error e => .failed rule.name e
    | .ok r =>
      match strategy, r.boolean?.getD false with
      | .any, true => .matched [matchedName]
      | .all, false => .unmatched
      | _, true => routeBy strategy holds (names ++ [rule.name]) rules
      | _, false => routeBy strategy holds names rules

/-- Where a record goes. Without rules it is not matched. -/
def route (r : Router) (record : Lookup) (now : Instant) : Route :=
  if r.rules.isEmpty then .unmatched
  else routeBy r.strategy (eval ⟨record, now, r.config⟩) [] r.rules

end Router

end RecordExpr
