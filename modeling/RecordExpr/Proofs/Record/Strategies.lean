import Mathlib.Data.List.Perm.Basic
import RecordExpr.Record.Router

/-!
# The three strategies

The strategies of a router evaluate the same rules in the same order, and differ in when they stop.
Rules that can be evaluated settle where a record goes, or else the rules after them decide, with
the names of those that hold kept in mind (`routeBy_append`). So there are two cases:

* no rule fails, and each strategy has an answer of its own (`byName_of_evaluate`,
  `any_of_evaluate`, `all_of_evaluate`);
* one of the rules fails first, and this is the answer unless those before it have settled the
  matter (`routeUnder_of_failsFirst`).

What the strategies do with the same rules is read off these (`strategies_agree`).
-/

namespace RecordExpr

/-- Where a record goes by the names of the rules that hold for it. -/
def Route.ofNames (names : List String) : Route := if names = [] then .unmatched else .matched names

/-! ### Rules and their outcomes -/

namespace Rule

/-- The condition of the rule is true. -/
def holds (env : Environment) (rule : Rule) : Bool :=
  decide (eval env rule.condition = .ok (.present (.boolean true)))

/-- The names of the rules that hold. -/
def namesHeld (env : Environment) (rules : List Rule) : List String :=
  (rules.filter (holds env)).map (·.name)

/-- All of some rules can be evaluated. -/
def Evaluate (env : Environment) (rules : List Rule) : Prop :=
  ∀ rule ∈ rules, ∃ result, eval env rule.condition = .ok result

/-- Of some rules, `rule` fails with `err`, and those `before` it can be evaluated. -/
structure FailsFirst (env : Environment) (rules before : List Rule) (rule : Rule)
    (err : EvalError) : Prop where
  split : ∃ after, rules = before ++ rule :: after
  evaluate : Evaluate env before
  fails : eval env rule.condition = .error err

variable {env : Environment} {rule : Rule} {rules : List Rule}

/-- A rule holds if its condition is true, and absence is not truth. -/
theorem holds_of_ok {result : Result} (h : eval env rule.condition = .ok result) :
    rule.holds env = result.boolean?.getD false := by
  rw [holds, h]
  cases result with
  | absent k => rfl
  | present v => cases v <;> simp [Result.boolean?]

/-- Rules can be evaluated if each of them can. -/
theorem evaluate_cons :
    Evaluate env (rule :: rules) ↔
      (∃ result, eval env rule.condition = .ok result) ∧ Evaluate env rules :=
  List.forall_mem_cons

/-- All rules can be evaluated, or one of them fails first. -/
theorem evaluate_or_failsFirst (env : Environment) (rules : List Rule) :
    Evaluate env rules ∨ ∃ before rule err, FailsFirst env rules before rule err := by
  induction rules with
  | nil => exact .inl (by simp [Evaluate])
  | cons rule rules ih =>
    cases ho : eval env rule.condition with
    | error err => exact .inr ⟨[], rule, err, ⟨rules, rfl⟩, by simp [Evaluate], ho⟩
    | ok result =>
      rcases ih with h | ⟨before, failing, err, ⟨after, rfl⟩, hb, hf⟩
      · exact .inl (evaluate_cons.mpr ⟨⟨result, ho⟩, h⟩)
      · have hb' : Evaluate env (rule :: before) := evaluate_cons.mpr ⟨⟨result, ho⟩, hb⟩
        exact .inr ⟨rule :: before, failing, err, ⟨after, rfl⟩, hb', hf⟩

theorem namesHeld_cons :
    namesHeld env (rule :: rules) = namesHeld env [rule] ++ namesHeld env rules := by
  rw [namesHeld, ← List.singleton_append, List.filter_append, List.map_append]
  rfl

/-- No names are held if no rule holds. -/
theorem namesHeld_eq_nil_iff : namesHeld env rules = [] ↔ rules.any (holds env) = false := by
  rw [namesHeld, List.map_eq_nil_iff, List.filter_eq_nil_iff, List.any_eq_false]

/-- All names are held if all rules hold. -/
theorem namesHeld_eq_names_iff :
    namesHeld env rules = rules.map (·.name) ↔ rules.all (holds env) := by
  constructor
  · intro h
    -- there are as many names as rules, so no rule is left out
    have hl : (rules.filter (holds env)).length = rules.length := by
      simpa [namesHeld] using congrArg List.length h
    rw [List.all_eq_true]
    exact List.length_filter_eq_length_iff.mp hl
  · intro h
    rw [namesHeld, List.filter_eq_self.mpr (List.all_eq_true.mp h)]

/-- The names of the rules that hold stay in their order. -/
theorem namesHeld_sublist : (namesHeld env rules).Sublist (rules.map (·.name)) :=
  List.filter_sublist.map _

/-- The same rules hold in another order. -/
theorem namesHeld_perm {others : List Rule} (h : others.Perm rules) :
    (namesHeld env others).Perm (namesHeld env rules) :=
  (h.filter _).map _

end Rule

/-! ### Rules that settle the matter -/

namespace Strategy

/-- Where a record goes because of some rules, whatever the rules after them come to. -/
def settled? (env : Environment) (rules : List Rule) : Strategy → Option Route
  | byName => none
  | all => if rules.all (Rule.holds env) then none else some .unmatched
  | any => if rules.any (Rule.holds env) then some (.matched [matchedName]) else none

/-- Where a record goes if nothing has settled it and the rules with these names hold. -/
def unsettled (names : List String) : Strategy → Route
  | byName => .ofNames names
  | all => .matched [matchedName]
  | any => .unmatched

/-- The first rule settles the route, or else the rest may. -/
theorem settled?_cons {env : Environment} {strategy : Strategy} {rule : Rule} {rules : List Rule} :
    strategy.settled? env (rule :: rules) =
      (strategy.settled? env [rule]).or (strategy.settled? env rules) := by
  cases strategy <;> cases h : rule.holds env <;> simp [settled?, h]

end Strategy

namespace Router

variable {env : Environment} {strategy : Strategy} {names : List String} {rule : Rule}
  {before rules : List Rule} {err : EvalError}

theorem routeBy_nil : routeBy strategy (eval env) names [] = strategy.unsettled names := by
  cases strategy with
  | byName => cases names <;> rfl
  | all | any => rfl

/-- A rule that cannot be evaluated ends the walk. -/
theorem routeBy_cons_of_error (h : eval env rule.condition = .error err) :
    routeBy strategy (eval env) names (rule :: rules) = .failed rule.name err := by
  rw [routeBy, h]

/-- A rule that can be evaluated settles the route or leaves it to the rest. -/
theorem routeBy_cons_of_ok {result : Result} (h : eval env rule.condition = .ok result) :
    routeBy strategy (eval env) names (rule :: rules) =
      (strategy.settled? env [rule]).getD
        (routeBy strategy (eval env) (names ++ Rule.namesHeld env [rule]) rules) := by
  have hh : rule.holds env = result.boolean?.getD false := Rule.holds_of_ok h
  rw [routeBy, h]
  dsimp only
  rw [← hh]
  cases strategy <;> cases hr : rule.holds env <;>
    simp [Strategy.settled?, Rule.namesHeld, hr]

/-- Rules that can be evaluated settle where the record goes, or the rules after them decide. -/
theorem routeBy_append (h : Rule.Evaluate env before) :
    routeBy strategy (eval env) names (before ++ rules) =
      (strategy.settled? env before).getD
        (routeBy strategy (eval env) (names ++ Rule.namesHeld env before) rules) := by
  induction before generalizing names with
  | nil =>
    have hn : strategy.settled? env [] = none := by cases strategy <;> rfl
    rw [hn, Rule.namesHeld, List.filter_nil, List.map_nil, List.append_nil, List.nil_append]
    rfl
  | cons rule before ih =>
    obtain ⟨⟨result, hr⟩, hb⟩ := Rule.evaluate_cons.mp h
    have hsettled : strategy.settled? env (rule :: before) =
        (strategy.settled? env [rule]).or (strategy.settled? env before) :=
      Strategy.settled?_cons
    have hnames : Rule.namesHeld env (rule :: before) =
        Rule.namesHeld env [rule] ++ Rule.namesHeld env before := Rule.namesHeld_cons
    rw [List.cons_append, routeBy_cons_of_ok hr, ih hb, hsettled, hnames, List.append_assoc,
      Option.getD_or]

/-! ### Routers -/

/-- What a router sees of a record. -/
def environment (r : Router) (record : Lookup) (now : Instant) : Environment :=
  ⟨record, now, r.config⟩

/-- Where a record goes by the rules of a router under some strategy. -/
def routeUnder (r : Router) (strategy : Strategy) (record : Lookup) (now : Instant) : Route :=
  { r with strategy }.route record now

/-- A router uses its own strategy. -/
theorem route_eq_routeUnder (r : Router) (record : Lookup) (now : Instant) :
    r.route record now = r.routeUnder r.strategy record now := rfl

variable {r : Router} {record : Lookup} {now : Instant}

/-- Where all rules can be evaluated, the route is settled by one of them or by their end. -/
theorem routeUnder_of_evaluate (h : Rule.Evaluate (r.environment record now) r.rules)
    (hne : r.rules ≠ []) :
    r.routeUnder strategy record now =
      (strategy.settled? (r.environment record now) r.rules).getD
        (strategy.unsettled (Rule.namesHeld (r.environment record now) r.rules)) := by
  have hroute : r.routeUnder strategy record now =
      routeBy strategy (eval (r.environment record now)) [] (r.rules ++ []) := by
    rw [routeUnder, route, if_neg (by simpa using hne), List.append_nil]
    rfl
  rw [hroute, routeBy_append h, routeBy_nil, List.nil_append]

/-- Where a rule fails, the rules before it may have settled the route already. -/
theorem routeUnder_of_failsFirst
    (h : Rule.FailsFirst (r.environment record now) r.rules before rule err) :
    r.routeUnder strategy record now =
      (strategy.settled? (r.environment record now) before).getD (.failed rule.name err) := by
  obtain ⟨after, ha⟩ := h.split
  rw [routeUnder, route, if_neg (by simp [ha]), ha]
  refine (routeBy_append h.evaluate).trans ?_
  rw [routeBy_cons_of_error h.fails]

section Evaluate

variable (h : Rule.Evaluate (r.environment record now) r.rules)

include h

/-- Routing by name collects the names of all rules that hold. -/
theorem byName_of_evaluate :
    r.routeUnder .byName record now =
      .ofNames (Rule.namesHeld (r.environment record now) r.rules) := by
  by_cases hne : r.rules = []
  · rw [routeUnder, route, hne]
    rfl
  · rw [routeUnder_of_evaluate h hne]
    rfl

/-- Any rule that holds is enough. -/
theorem any_of_evaluate :
    r.routeUnder .any record now =
      if r.rules.any (Rule.holds (r.environment record now)) then .matched [matchedName]
      else .unmatched := by
  by_cases hne : r.rules = []
  · rw [routeUnder, route, hne]
    rfl
  · rw [routeUnder_of_evaluate h hne, Strategy.settled?]
    split <;> rfl

/-- Without rules the record is not matched, although all rules hold. -/
theorem all_of_evaluate :
    r.routeUnder .all record now =
      if r.rules ≠ [] ∧ r.rules.all (Rule.holds (r.environment record now)) then
        .matched [matchedName]
      else .unmatched := by
  by_cases hne : r.rules = []
  · rw [routeUnder, route, hne]
    rfl
  · rw [routeUnder_of_evaluate h hne, Strategy.settled?]
    split <;> simp_all [Strategy.unsettled]

end Evaluate

/-! ### The answer by names -/

/-- Routing by name looks at every rule, so that it meets each failure. -/
theorem byName_of_failsFirst
    (h : Rule.FailsFirst (r.environment record now) r.rules before rule err) :
    r.routeUnder .byName record now = .failed rule.name err :=
  routeUnder_of_failsFirst h

/-- Routing by name fails with the first rule that fails, and only then. -/
theorem byName_eq_failed_iff {name : String} :
    r.routeUnder .byName record now = .failed name err ↔
      ∃ before rule, rule.name = name ∧
        Rule.FailsFirst (r.environment record now) r.rules before rule err := by
  constructor
  · intro hr
    rcases Rule.evaluate_or_failsFirst (r.environment record now) r.rules with
      h | ⟨before, rule, err', h⟩
    · rw [byName_of_evaluate h, Route.ofNames] at hr
      split at hr <;> cases hr
    · rw [byName_of_failsFirst h] at hr
      cases hr
      exact ⟨before, rule, rfl, h⟩
  · rintro ⟨before, rule, rfl, h⟩
    exact byName_of_failsFirst h

/-- If routing by name does not fail, no rule does. -/
theorem evaluate_of_byName (hr : ∀ name err, r.routeUnder .byName record now ≠ .failed name err) :
    Rule.Evaluate (r.environment record now) r.rules := by
  rcases Rule.evaluate_or_failsFirst (r.environment record now) r.rules with
    h | ⟨before, rule, err, h⟩
  · exact h
  · exact absurd (byName_of_failsFirst h) (hr _ _)

/-! ### The other answers -/

/-- What the other strategies make of rules of which some hold. -/
theorem others_of_matched (hr : r.routeUnder .byName record now = .matched names) :
    r.routeUnder .any record now = .matched [matchedName] ∧
      r.routeUnder .all record now =
        if names = r.ruleNames then .matched [matchedName] else .unmatched := by
  have h : Rule.Evaluate (r.environment record now) r.rules :=
    evaluate_of_byName fun name err hf => by cases hr.symm.trans hf
  -- the names are those of the rules that hold, and there are some
  rw [byName_of_evaluate h, Route.ofNames] at hr
  split at hr
  · cases hr
  · next hn =>
    cases hr
    have hany : r.rules.any (Rule.holds (r.environment record now)) = true := by
      simpa [Rule.namesHeld_eq_nil_iff] using hn
    have hne : r.rules ≠ [] := by
      rintro hnil
      simp [hnil] at hany
    rw [any_of_evaluate h, all_of_evaluate h, if_pos hany]
    simp only [ruleNames, Rule.namesHeld_eq_names_iff, ne_eq, hne, not_false_eq_true, true_and]

/-- If no rule holds, there is no match under any strategy. -/
theorem others_of_unmatched (hr : r.routeUnder .byName record now = .unmatched) :
    r.routeUnder .any record now = .unmatched ∧ r.routeUnder .all record now = .unmatched := by
  have h : Rule.Evaluate (r.environment record now) r.rules :=
    evaluate_of_byName fun name err hf => by cases hr.symm.trans hf
  rw [byName_of_evaluate h, Route.ofNames] at hr
  split at hr
  · next hn =>
    have hany : r.rules.any (Rule.holds (r.environment record now)) = false :=
      Rule.namesHeld_eq_nil_iff.mp hn
    rw [any_of_evaluate h, all_of_evaluate h, hany]
    refine ⟨rfl, if_neg ?_⟩
    rintro ⟨hne, hall⟩
    -- all rules hold, and none does
    obtain ⟨rule, hrule⟩ := List.exists_mem_of_ne_nil _ hne
    exact List.any_eq_false.mp hany rule hrule (List.all_eq_true.mp hall rule hrule)
  · cases hr

/-- Under the other strategies a rule may settle the route before another one fails. -/
theorem others_of_failsFirst
    (h : Rule.FailsFirst (r.environment record now) r.rules before rule err) :
    (r.routeUnder .any record now =
      if before.any (Rule.holds (r.environment record now)) then .matched [matchedName]
      else .failed rule.name err) ∧
    (r.routeUnder .all record now =
      if before.all (Rule.holds (r.environment record now)) then .failed rule.name err
      else .unmatched) := by
  rw [routeUnder_of_failsFirst h, routeUnder_of_failsFirst h, Strategy.settled?, Strategy.settled?]
  constructor <;> split <;> rfl

/-- Everything that routing can come to. -/
theorem routeUnder_cases (r : Router) (strategy : Strategy) (record : Lookup) (now : Instant) :
    (strategy = .byName ∧ ∃ names, names ≠ [] ∧ names.Sublist r.ruleNames ∧
      r.routeUnder strategy record now = .matched names) ∨
    (strategy ≠ .byName ∧ r.routeUnder strategy record now = .matched [matchedName]) ∨
    r.routeUnder strategy record now = .unmatched ∨
    ∃ rule ∈ r.rules, ∃ err, eval (r.environment record now) rule.condition = .error err ∧
      r.routeUnder strategy record now = .failed rule.name err := by
  rcases Rule.evaluate_or_failsFirst (r.environment record now) r.rules with
    h | ⟨before, rule, err, h⟩
  · -- all conditions have a truth value, and the strategies count them
    cases strategy with
    | byName =>
      rw [byName_of_evaluate h, Route.ofNames]
      split
      · exact .inr (.inr (.inl rfl))
      · next hn => exact .inl ⟨rfl, _, hn, Rule.namesHeld_sublist, rfl⟩
    | all =>
      rw [all_of_evaluate h]
      split
      · exact .inr (.inl ⟨Strategy.noConfusion, rfl⟩)
      · exact .inr (.inr (.inl rfl))
    | any =>
      rw [any_of_evaluate h]
      split
      · exact .inr (.inl ⟨Strategy.noConfusion, rfl⟩)
      · exact .inr (.inr (.inl rfl))
  · -- a rule fails, and it depends on the rules before it whether it is reached
    have hrule : rule ∈ r.rules := by
      obtain ⟨after, ha⟩ := h.split
      simp [ha]
    have hothers := others_of_failsFirst h
    cases strategy with
    | byName => exact .inr (.inr (.inr ⟨rule, hrule, err, h.fails, byName_of_failsFirst h⟩))
    | all =>
      rw [hothers.2]
      split
      · exact .inr (.inr (.inr ⟨rule, hrule, err, h.fails, rfl⟩))
      · exact .inr (.inr (.inl rfl))
    | any =>
      rw [hothers.1]
      split
      · exact .inr (.inl ⟨Strategy.noConfusion, rfl⟩)
      · exact .inr (.inr (.inr ⟨rule, hrule, err, h.fails, rfl⟩))

/-! ### The order of the rules -/

/-- The order of rules that can all be evaluated matters only for the order of the names. -/
theorem routeUnder_of_perm (h : Rule.Evaluate (r.environment record now) r.rules)
    (hp : rules.Perm r.rules) :
    let reordered : Router := { r with rules }
    reordered.routeUnder .any record now = r.routeUnder .any record now ∧
      reordered.routeUnder .all record now = r.routeUnder .all record now ∧
      ∃ names, names.Perm (Rule.namesHeld (r.environment record now) r.rules) ∧
        reordered.routeUnder .byName record now = .ofNames names := by
  intro reordered
  have h' : Rule.Evaluate (reordered.environment record now) reordered.rules :=
    fun rule hrule => h rule (hp.mem_iff.mp hrule)
  -- the strategy that asks for all rules asks for one at least
  have hnil : reordered.rules = [] ↔ r.rules = [] := by
    rw [← List.length_eq_zero_iff, hp.length_eq, List.length_eq_zero_iff]
  have hany : reordered.rules.any (Rule.holds (reordered.environment record now)) =
      r.rules.any (Rule.holds (r.environment record now)) := hp.any_eq
  have hall : reordered.rules.all (Rule.holds (reordered.environment record now)) =
      r.rules.all (Rule.holds (r.environment record now)) := hp.all_eq
  refine ⟨?_, ?_, _, Rule.namesHeld_perm hp, byName_of_evaluate h'⟩
  · rw [any_of_evaluate h', any_of_evaluate h, hany]
  · rw [all_of_evaluate h', all_of_evaluate h, hall]
    simp only [ne_eq, hnil]

/-! ### All strategies -/

/-- By name, a record goes where the rules that hold say, unless one of the rules fails first. Any
other strategy follows it, or settles where the record goes before that rule. If no rule fails, the
order of the rules matters for the order of the names only. -/
theorem strategies_agree (r : Router) (record : Lookup) (now : Instant) :
    let env := r.environment record now
    let byName := r.routeUnder .byName record now
    let all := r.routeUnder .all record now
    let any := r.routeUnder .any record now
    (∀ name err, byName = .failed name err ↔
      ∃ before rule, rule.name = name ∧ Rule.FailsFirst env r.rules before rule err) ∧
    ((∀ name err, byName ≠ .failed name err) → Rule.Evaluate env r.rules) ∧
    (Rule.Evaluate env r.rules → byName = .ofNames (Rule.namesHeld env r.rules)) ∧
    (∀ names, byName = .matched names →
      any = .matched [matchedName] ∧
      all = if names = r.ruleNames then .matched [matchedName] else .unmatched) ∧
    (byName = .unmatched → any = .unmatched ∧ all = .unmatched) ∧
    (∀ before rule err, Rule.FailsFirst env r.rules before rule err →
      (any = if before.any (Rule.holds env) then .matched [matchedName]
        else .failed rule.name err) ∧
      (all = if before.all (Rule.holds env) then .failed rule.name err else .unmatched)) ∧
    (Rule.Evaluate env r.rules → ∀ rules, rules.Perm r.rules →
      let reordered : Router := { r with rules }
      reordered.routeUnder .any record now = any ∧ reordered.routeUnder .all record now = all ∧
        ∃ names, names.Perm (Rule.namesHeld env r.rules) ∧
          reordered.routeUnder .byName record now = .ofNames names) :=
  ⟨fun _ _ => byName_eq_failed_iff, evaluate_of_byName, byName_of_evaluate,
    fun _ => others_of_matched, others_of_unmatched, fun _ _ _ => others_of_failsFirst,
    fun h _ hp => routeUnder_of_perm h hp⟩

/-- Of three rules the first holds, the second is absent and the third fails. Where the record goes
is settled before the third one, except by name. -/
theorem strategies_agree_third_fails :
    let yes : Rule := ⟨"yes", .literal (.present (.boolean true))⟩
    let absent : Rule := ⟨"absent", .literal (.absent .boolean)⟩
    let bad : Rule := ⟨"bad", .convert .boolean (.literal (.present (.string "x"))) none⟩
    let one : Router := ⟨.byName, [absent], .default⟩
    let two : Router := ⟨.byName, [yes, absent], .default⟩
    let three : Router := ⟨.byName, [yes, absent, bad], .default⟩
    let record : Lookup := fun _ => none
    (three.routeUnder .byName record .epoch = .failed "bad" (.coercionFailed "x" .boolean) ∧
      three.routeUnder .any record .epoch = .matched [matchedName] ∧
      three.routeUnder .all record .epoch = .unmatched) ∧
    (two.routeUnder .byName record .epoch = .matched ["yes"] ∧
      two.routeUnder .any record .epoch = .matched [matchedName] ∧
      two.routeUnder .all record .epoch = .unmatched) ∧
    (∃ names, names.Perm ["yes"] ∧
      ({ two with rules := [absent, yes] } : Router).routeUnder .byName record .epoch =
        .ofNames names) ∧
    one.routeUnder .byName record .epoch = .unmatched ∧
      one.routeUnder .any record .epoch = .unmatched ∧
      one.routeUnder .all record .epoch = .unmatched := by
  intro yes absent bad one two three record
  have hyes : ∃ result, eval (two.environment record .epoch) yes.condition = .ok result := ⟨_, rfl⟩
  have habsent : ∃ result, eval (two.environment record .epoch) absent.condition = .ok result :=
    ⟨_, rfl⟩
  have htwo : Rule.Evaluate (two.environment record .epoch) [yes, absent] :=
    Rule.evaluate_cons.mpr ⟨hyes, Rule.evaluate_cons.mpr ⟨habsent, by simp [Rule.Evaluate]⟩⟩
  have hfirst : Rule.FailsFirst (three.environment record .epoch) three.rules [yes, absent] bad
      (.coercionFailed "x" .boolean) := ⟨⟨[], rfl⟩, htwo, rfl⟩
  refine ⟨?_, ?_, ?_, ?_⟩
  · obtain ⟨hfailed, _, _, _, _, hothers, _⟩ := strategies_agree three record .epoch
    exact ⟨(hfailed _ _).mpr ⟨_, bad, rfl, hfirst⟩, hothers _ _ _ hfirst⟩
  · obtain ⟨_, _, hnames, hmatched, _⟩ := strategies_agree two record .epoch
    exact ⟨hnames htwo, hmatched _ (hnames htwo)⟩
  · obtain ⟨_, _, _, _, _, _, hperm⟩ := strategies_agree two record .epoch
    exact (hperm htwo [absent, yes] (.swap ..)).2.2
  · obtain ⟨_, _, hnames, _, hunmatched, _⟩ := strategies_agree one record .epoch
    have hone : one.routeUnder .byName record .epoch = .unmatched :=
      hnames (Rule.evaluate_cons.mpr ⟨habsent, by simp [Rule.Evaluate]⟩)
    exact ⟨hone, hunmatched hone⟩

end Router

end RecordExpr
