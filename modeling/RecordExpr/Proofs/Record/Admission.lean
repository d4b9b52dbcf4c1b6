import RecordExpr.Proofs.Eval.ValueErrors
import RecordExpr.Proofs.Record.RouterRules
import RecordExpr.Proofs.Validation.Kinds
import RecordExpr.Record.Aggregate
import RecordExpr.Record.Updater

/-!
# Expressions that have been admitted

Routers, updaters and aggregates look at an expression when they take it in, each for what it needs,
and evaluate it later without looking again. What they ask for is kept by everything that changes
them, so it holds of each expression that they evaluate: it is valid in all three
(`Router.Built.sound`, `Updater.Built.valid`, `Aggregate.Built.valid`), and moreover Boolean in a
router and a number in an aggregate (`Aggregate.Built.numeric`).

A valid expression does not meet a value of a wrong kind (`errors_eval_of_valid`), and what is done
to its result afterwards does not depend on kinds any more, except that the result may be absent. So
none of the three ever fails for that reason (`admitted_never_illTyped`).
-/

namespace RecordExpr

variable {e : Expr} {record : Lookup} {now : Instant}

/-! ### Errors of kinds -/

/-- An operator has met a value of a kind that it does not take. -/
def EvalError.IsIllTyped (err : EvalError) : Prop :=
  ∃ operator expected actual, err = .illTyped operator expected actual

/-- The failure comes from a value of a wrong kind. -/
def Failure.IsIllTyped (failure : Failure) : Prop :=
  ∃ err, failure.cause? = some err ∧ err.IsIllTyped

/-- What passes validation is never found to be ill typed. -/
theorem errors_eval_of_valid (hv : hasErrors (validate e) = false)
    (hs : ∀ n ∈ e.nodes, n.SearchFits) (env : Environment) :
    ErrorsIn (¬·.IsIllTyped) (eval env e) := by
  rintro _ h ⟨operator, expected, actual, rfl⟩
  obtain ⟨i, hi, hk, _⟩ := exists_issue_of_illTyped hs h
  have hw : i.kind = .zeroDivisor := kind_of_mem_validate hv hi
  rcases hk with hk | hk <;> cases hk.symm.trans hw

/-- Nor does it matter for that which format its result is written in. -/
theorem Result.errors_render_illTyped (r : Result) (format : Option String) :
    ErrorsIn (¬·.IsIllTyped) (r.render format) := by
  cases r with
  | absent k => exact .ok none
  | present v =>
    refine (Value.errors_render fun _ f fault _ _ => ?_).bind fun s _ => .ok (some s)
    rintro ⟨_, _, _, h⟩
    cases h

/-- A failure has the cause that it is made of. -/
theorem errors_orFailure {α : Type} {failure : EvalError → Failure} {x : Except EvalError α}
    (hf : ∀ err, (failure err).cause? = some err) (h : ErrorsIn (¬·.IsIllTyped) x) :
    ErrorsIn (¬·.IsIllTyped) (orFailure failure x) := by
  cases x with
  | ok a => exact .ok a
  | error err =>
    refine .error ?_
    rintro ⟨cause, hcause, hill⟩
    cases (hf err).symm.trans hcause
    exact h err rfl hill

/-! ### Routers -/

namespace Router

/-- What a router can become. -/
inductive Built : Router → Prop
  | new (strategy : Strategy) (config : Config) : Built (new strategy config)
  | offered {r : Router} (rule : String × Expr) (h : Built r) : Built (r.afterOffer rule)
  | configured {r : Router} (config : Config) (h : Built r) : Built (r.withConfig config)

variable {r : Router} {rule : Rule} {result : Result}

/-- A router that was built by offers holds rules that passed its checks. -/
theorem Built.sound (h : r.Built) : r.Sound := by
  induction h with
  | new strategy config => exact sound_new strategy config
  | offered rule _ ih => exact ih.afterOffer rule
  | configured config _ ih => exact ⟨ih.nodup, ih.unreserved, ih.valid, ih.boolean⟩

/-- A route fails only by the error of a rule. -/
theorem exists_error_of_failed {name : String} {err : EvalError}
    (h : r.route record now = .failed name err) :
    ∃ rule ∈ r.rules, eval (r.environment record now) rule.condition = .error err := by
  rw [route_eq_routeUnder] at h
  rcases r.routeUnder_cases r.strategy record now with
    ⟨_, _, _, _, hr⟩ | ⟨_, hr⟩ | hr | ⟨rule, hrule, err', he, hr⟩ <;> cases h.symm.trans hr
  exact ⟨rule, hrule, he⟩

/-- No rule of a sound router fails for its types. -/
theorem Sound.not_illTyped (h : r.Sound)
    (hs : ∀ rule ∈ r.rules, ∀ n ∈ rule.condition.nodes, n.SearchFits) {name : String}
    {err : EvalError} (hr : r.route record now = .failed name err) : ¬err.IsIllTyped := by
  obtain ⟨rule, hrule, he⟩ := exists_error_of_failed hr
  exact errors_eval_of_valid (h.valid rule hrule) (hs rule hrule) _ err he

/-- What a rule yields is a Boolean or the absence of one. -/
theorem Sound.result_cases (h : r.Sound) (hrule : rule ∈ r.rules)
    (hr : eval (r.environment record now) rule.condition = .ok result) :
    result = .absent .boolean ∨ ∃ b, result = .present (.boolean b) := by
  have hk : result.kind = .boolean := (kind_of_eval hr).trans (h.boolean rule hrule)
  cases result with
  | absent k => exact .inl (congrArg Result.absent hk)
  | present v =>
    cases v with
    | boolean b => exact .inr ⟨b, rfl⟩
    | _ => cases hk

/-- Only an absent result is taken for false although it is not. -/
theorem Sound.boolean?_eq_none_iff (h : r.Sound) (hrule : rule ∈ r.rules)
    (hr : eval (r.environment record now) rule.condition = .ok result) :
    result.boolean? = none ↔ result = .absent .boolean := by
  rcases h.result_cases hrule hr with rfl | ⟨b, rfl⟩ <;> simp [Result.boolean?]

end Router

/-! ### Updaters -/

namespace Updater

/-- What an updater can become. -/
inductive Built : Updater → Prop
  | new {target : String} {value : Expr} {config : Config} {u : Updater}
      (h : new target value config = .ok u) : Built u
  | extended {u next : Updater} {name : String} {e : Expr} (hu : Built u)
      (h : u.withVariable name e = .ok next) : Built next
  | configured {u : Updater} (config : Config) (hu : Built u) : Built (u.withConfig config)

/-- The expressions that an updater evaluates for each record. -/
def expressions (u : Updater) : List Expr := u.vars.entries.map (·.2) ++ [u.value]

variable {u : Updater} {state : State}

/-- The expressions of an updater have passed validation. -/
theorem Built.valid (h : u.Built) : ∀ e ∈ u.expressions, hasErrors (validate e) = false := by
  induction h with
  | @new target value config u h =>
    obtain ⟨_, hv, h⟩ := bind_eq_ok_iff.mp h
    cases h
    intro e he
    rw [List.mem_singleton.mp he]
    exact requireValid_eq_ok_iff.mp hv
  | @extended u next name e' _ h ih =>
    obtain ⟨_, hv, h⟩ := bind_eq_ok_iff.mp h
    cases h
    -- an expression is the new one, or it was one before
    intro e he
    rcases List.mem_append.mp he with he | he
    · obtain ⟨v, hvar, rfl⟩ := List.mem_map.mp he
      rcases Dictionary.mem_insertEntry hvar with rfl | hvar
      · exact requireValid_eq_ok_iff.mp hv
      · exact ih v.2 (List.mem_append_left _ (List.mem_map_of_mem hvar))
    · exact ih e (List.mem_append_right _ he)
  | configured config _ ih => exact ih

section NotIllTyped

variable (hv : ∀ e ∈ u.expressions, hasErrors (validate e) = false)
  (hs : ∀ e ∈ u.expressions, ∀ n ∈ e.nodes, n.SearchFits)

include hv hs

/-- No expression of an updater fails for its types, whatever has been stored so far. -/
theorem errors_textFor {purpose : Purpose} (he : e ∈ u.expressions) :
    ErrorsIn (¬·.IsIllTyped) (u.textFor state record now purpose e) := by
  refine errors_orFailure (fun _ => rfl) ?_
  exact (errors_eval_of_valid (hv e he) (hs e he) _).bind fun r _ =>
    r.errors_render_illTyped u.config.dateFormat

theorem errors_stepVariable {v : String × Expr} (he : v ∈ u.vars.entries) :
    ErrorsIn (¬·.IsIllTyped) (u.stepVariable record now state v) := by
  have hmem : v.2 ∈ u.expressions := List.mem_append_left _ (List.mem_map_of_mem he)
  refine (errors_textFor hv hs hmem).bind fun text? _ => ?_
  cases text? with
  | none => exact .ok _
  | some text => exact .ok _

/-- Neither does a whole update. -/
theorem errors_apply : ErrorsIn (¬·.IsIllTyped) (u.apply state record now) := by
  refine (ErrorsIn.foldlM (fun v hvar _ => errors_stepVariable hv hs hvar) state).bind ?_
  have hmem : u.value ∈ u.expressions := by simp [expressions]
  exact fun next _ => (errors_textFor hv hs hmem).bind fun text? _ => .ok _

end NotIllTyped

end Updater

/-! ### Aggregates -/

namespace Aggregate

/-- What an aggregate can become. -/
inductive Built : Aggregate → Prop
  | new {expr : Expr} {config : Config} {a : Aggregate} (h : new expr config = .ok a) : Built a
  | configured {a : Aggregate} (config : Config) (h : Built a) : Built (a.withConfig config)

/-- What the expression of an aggregate is evaluated in. -/
def environment (a : Aggregate) (aggregate : Decimal) (value : String) (count : Nat)
    (now : Instant) : Environment :=
  ⟨stepLookup aggregate value count, now, a.config⟩

variable {a : Aggregate} {aggregate : Decimal} {value : String} {count : Nat}

/-- An aggregator is not made of an expression without a number. -/
theorem valid_and_numeric_of_new {expr : Expr} {config : Config} (h : new expr config = .ok a) :
    hasErrors (validate a.expr) = false ∧ a.expr.kind.isNumeric = true := by
  obtain ⟨_, hv, h⟩ := bind_eq_ok_iff.mp h
  split at h
  · next hn =>
    cases h
    exact ⟨requireValid_eq_ok_iff.mp hv, hn⟩
  · cases h

theorem Built.valid (h : a.Built) : hasErrors (validate a.expr) = false := by
  induction h with
  | new h => exact (valid_and_numeric_of_new h).1
  | configured config _ ih => exact ih

theorem Built.numeric (h : a.Built) : a.expr.kind.isNumeric = true := by
  induction h with
  | new h => exact (valid_and_numeric_of_new h).2
  | configured config _ ih => exact ih

section Step

variable {err : EvalError} {r : Result}

theorem step_of_error (h : eval (a.environment aggregate value count now) a.expr = .error err) :
    a.step aggregate value count now = .error (.aggregation value err) := by
  rw [environment] at h
  rw [step, h]
  rfl

/-- A result with no number in it ends a step with an error of its own. -/
theorem step_of_ok (h : eval (a.environment aggregate value count now) a.expr = .ok r) :
    a.step aggregate value count now =
      (r.value?.bind Value.widen?).elim (.error (.noNumber value)) .ok := by
  rw [environment] at h
  rw [step, h]
  dsimp only [orFailure, bind, Except.bind]
  cases r.value?.bind Value.widen? <;> rfl

end Step

/-- No step of an aggregator fails for the types of its expression. -/
theorem Built.errors_step (h : a.Built) (hs : ∀ n ∈ a.expr.nodes, n.SearchFits) :
    ErrorsIn (¬·.IsIllTyped) (a.step aggregate value count now) := by
  have heval := errors_eval_of_valid h.valid hs (a.environment aggregate value count now)
  cases hr : eval (a.environment aggregate value count now) a.expr with
  | error err =>
    rw [step_of_error hr]
    refine .error ?_
    rintro ⟨_, hcause, hill⟩
    cases hcause
    exact heval err hr hill
  | ok r =>
    rw [step_of_ok hr]
    cases r.value?.bind Value.widen? with
    | some d => exact .ok d
    | none =>
      refine .error ?_
      rintro ⟨_, hcause, _⟩
      cases hcause

/-- Values of the numeric kinds can be taken for decimals, and no others. -/
theorem isSome_widen? (v : Value) : v.widen?.isSome = v.kind.isNumeric := by
  cases v <;> rfl

/-- The result is a number or absent, so a step lacks a number just if it is absent. -/
theorem Built.step_eq_noNumber_iff (h : a.Built) :
    a.step aggregate value count now = .error (.noNumber value) ↔
      ∃ k, eval (a.environment aggregate value count now) a.expr = .ok (.absent k) := by
  cases hr : eval (a.environment aggregate value count now) a.expr with
  | error err =>
    rw [step_of_error hr]
    simp
  | ok r =>
    rw [step_of_ok hr]
    cases r with
    | absent k => exact ⟨fun _ => ⟨k, rfl⟩, fun _ => rfl⟩
    | present v =>
      have hk : v.kind.isNumeric = true := by
        have hkind : v.kind = a.expr.kind := kind_of_eval hr
        rw [hkind]
        exact h.numeric
      obtain ⟨d, hd⟩ := Option.isSome_iff_exists.mp ((isSome_widen? v).trans hk)
      simp [Result.value?, hd]

end Aggregate

/-! ### All three -/

/-- Routers, updaters and aggregates take in only what they can use: if string tests look for what
they take, none of them ever fails for a value of a wrong kind. The result of a rule is Boolean or
absent, and an aggregate lacks a number just if its expression is absent. -/
theorem admitted_never_illTyped :
    (∀ r : Router, r.Built →
      (∀ rule ∈ r.rules, ∀ n ∈ rule.condition.nodes, n.SearchFits) → ∀ record now,
        ∀ name err, r.route record now = .failed name err → ¬err.IsIllTyped) ∧
    (∀ u : Updater, u.Built → (∀ e ∈ u.expressions, ∀ n ∈ e.nodes, n.SearchFits) →
      ∀ state record now,
        ∀ failure, u.apply state record now = .error failure → ¬failure.IsIllTyped) ∧
    (∀ a : Aggregate, a.Built → (∀ n ∈ a.expr.nodes, n.SearchFits) →
      ∀ aggregate value count now,
        ∀ failure, a.step aggregate value count now = .error failure → ¬failure.IsIllTyped) ∧
    (∀ r : Router, r.Built → ∀ record now, ∀ rule ∈ r.rules, ∀ result,
      eval (r.environment record now) rule.condition = .ok result →
        (result = .absent .boolean ∨ ∃ b, result = .present (.boolean b)) ∧
          (result.boolean? = none ↔ result = .absent .boolean)) ∧
    (∀ a : Aggregate, a.Built → ∀ aggregate value count now,
      a.step aggregate value count now = .error (.noNumber value) ↔
        ∃ k, eval (a.environment aggregate value count now) a.expr = .ok (.absent k)) := by
  refine ⟨fun r h hs record now name err => h.sound.not_illTyped hs, ?_, ?_, ?_, ?_⟩
  · exact fun u h hs state record now => Updater.errors_apply h.valid hs
  · exact fun a h hs aggregate value count now => h.errors_step hs
  · exact fun r h record now rule hrule result hr =>
      ⟨h.sound.result_cases hrule hr, h.sound.boolean?_eq_none_iff hrule hr⟩
  · exact fun a h aggregate value count now => h.step_eq_noNumber_iff

/-- A text that is no value fails a rule, a variable and an aggregate, in each case because of the
text. A rule that negates the text has been refused. -/
theorem admitted_never_illTyped_no_value :
    let truth := Expr.convert .boolean (.attr "x") none
    let r := (((Router.new .byName .default).afterOffer ("not", .unary .not (.attr "x"))).afterOffer
      ("truth", truth)).withConfig .default
    let plain : Updater := ⟨"y", .attr "v", .empty, .default⟩
    let u : Updater :=
      { plain with vars := .insert .empty "v" (.convert .wholeNumber (.attr "x") none) }
    let a : Aggregate := ⟨.convert .decimal (.attr Aggregate.valueName) none, .default⟩
    let missing : Aggregate := ⟨.convert .decimal (.attr "x") none, .default⟩
    let record : Lookup := fun _ => some "?"
    r.rules.map (·.name) = ["truth"] ∧
    (∃ err, r.route record .epoch = .failed "truth" err ∧ ¬err.IsIllTyped) ∧
    (∃ failure, u.apply .empty record .epoch = .error failure ∧ ¬failure.IsIllTyped) ∧
    (∃ failure, a.step (.zero false) "?" 1 .epoch = .error failure ∧ ¬failure.IsIllTyped) ∧
    (∃ result, eval (r.environment (fun _ => none) .epoch) truth = .ok result ∧
      (result.boolean? = none ↔ result = .absent .boolean)) ∧
    missing.step (.zero false) "1" 1 .epoch = .error (.noNumber "1") := by
  intro truth r plain u a missing record
  obtain ⟨hroute, hupdate, hstep, hresult, hnumber⟩ := admitted_never_illTyped
  have hr : r.Built := .configured _ (.offered _ (.offered _ (.new _ _)))
  have hplain : Updater.new "y" (.attr "v") .default = .ok plain := rfl
  have hvar : plain.withVariable "v" (.convert .wholeNumber (.attr "x") none) = .ok u := rfl
  have hu : u.Built := .extended (.new hplain) hvar
  have ha : a.Built := .new (rfl : Aggregate.new a.expr .default = .ok a)
  have hmissing : missing.Built := .new (rfl : Aggregate.new missing.expr .default = .ok missing)
  have hattr (name : String) : ∀ n ∈ (Expr.attr name).nodes, n.SearchFits := by
    simp [Expr.nodes_eq, Expr.operands, Expr.SearchFits]
  have hconvert (k : Kind) (name : String) :
      ∀ n ∈ (Expr.convert k (.attr name) none).nodes, n.SearchFits := by
    simp [Expr.nodes_eq, Expr.operands, Expr.SearchFits]
  have hrules : r.rules = [⟨"truth", truth⟩] := rfl
  have hexprs : u.expressions = [.convert .wholeNumber (.attr "x") none, .attr "v"] := rfl
  refine ⟨rfl, ⟨_, rfl, hroute r hr ?_ record .epoch _ _ rfl⟩,
    ⟨_, rfl, hupdate u hu ?_ .empty record .epoch _ rfl⟩,
    ⟨_, rfl, hstep a ha ?_ (.zero false) "?" 1 .epoch _ rfl⟩,
    ⟨_, rfl, (hresult r hr (fun _ => none) .epoch ⟨"truth", truth⟩ ?_ _ rfl).2⟩,
    (hnumber missing hmissing (.zero false) "1" 1 .epoch).mpr ⟨_, rfl⟩⟩
  · rw [hrules, List.forall_mem_singleton]
    exact hconvert .boolean "x"
  · rw [hexprs, List.forall_mem_cons, List.forall_mem_singleton]
    exact ⟨hconvert .wholeNumber "x", hattr "v"⟩
  · exact hconvert .decimal Aggregate.valueName
  · rw [hrules]
    exact List.mem_singleton_self _

end RecordExpr
