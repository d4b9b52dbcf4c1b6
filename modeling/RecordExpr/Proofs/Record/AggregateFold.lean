import RecordExpr.Proofs.Eval.Substitution
import RecordExpr.Proofs.Record.Admission

/-!
# The aggregate between two steps

Between two steps the aggregate is a text, one of the attributes that the expression sees. An
expression that converts the attribute to a decimal gets the aggregate back as it was, a NaN as the
quiet one (`eval_aggregate`). If it does nothing else with the attribute, the text makes no
difference: the steps are those of an expression with the exact aggregate in the place of each
conversion (`step_alike_stepWith`), and so are all steps together (`fold_alike_stepWith`).

A literal cannot take the place in every expression. A pattern that depends on the aggregate would
have a constant source then and be made in advance, without the limit on texts that is configured.
So the place is taken by `Expr.exactly`, which has the value of the literal and is no constant. The
literal is as good where no pattern depends on the aggregate.
-/

namespace RecordExpr

namespace Expr

/-- Whether a node converts an attribute to a decimal. -/
def readsAsDecimal (name : String) : Expr → Bool
  | convert .decimal (attr other) _ => other == name
  | _ => false

/-- A decimal in the place of a converted attribute. The conversion is kept, for a value that is
absent, which the decimal is not. -/
def exactly (name : String) (d : Decimal) : Expr :=
  replaceNull (literal (.present (.decimal d))) (convert .decimal (attr name) none)

theorem readsAsDecimal_iff {name : String} {n : Expr} :
    n.readsAsDecimal name = true ↔ ∃ format, n = convert .decimal (attr name) format := by
  constructor
  · intro h
    unfold readsAsDecimal at h
    split at h
    · exact ⟨_, by rw [eq_of_beq h]⟩
    · cases h
  · rintro ⟨format, rfl⟩
    exact beq_self_eq_true name

end Expr

/-- A decimal is read from its text as it was, except that NaN has one form. -/
theorem readDecimal_render (d : Decimal) :
    readDecimal d.render = .ok (if d.isNaN then .nan else d) := by
  rw [readDecimal, d.parse?_render]
  rfl

/-- What is read back of a decimal is the decimal, or NaN like it. -/
theorem Decimal.readBack_alike (d : Decimal) : (if d.isNaN then .nan else d).Alike d := by
  split
  · next h => exact .nan (by decide +kernel) h
  · exact .refl d

namespace Aggregate

variable {a : Aggregate} {d d' : Decimal} {new : Expr} {value : String} {count : Nat}
  {now : Instant}

/-! ### Steps with another expression in the place of the aggregate -/

/-- What a step makes of the outcome of its expression. -/
def accept (value : String) (x : Except EvalError Result) : Except Failure Decimal := do
  let r ← orFailure (.aggregation value) x
  match r.value?.bind Value.widen? with
  | some d => return d
  | none => throw (.noNumber value)

theorem step_eq_accept : a.step d value count now =
    accept value (eval (a.environment d value count now) a.expr) := rfl

/-- What the expression of a step sees beside the aggregate. -/
def lookupBeside (value : String) (count : Nat) : Lookup := fun name =>
  if name = valueName then some value else if name = countName then some (toString count) else none

/-- A step that has another expression where the aggregate is converted to a decimal, and has no
text of the aggregate. -/
def stepWith (a : Aggregate) (new : Expr) (value : String) (count : Nat) (now : Instant) :
    Except Failure Decimal :=
  accept value (eval ⟨lookupBeside value count, now, a.config⟩
    (a.expr.substitute (·.readsAsDecimal aggregateName) new))

/-- The aggregate of some values, where an expression takes the place of the aggregate in each
step. -/
def foldWith (a : Aggregate) (place : Decimal → Expr) (values : List String) (count : Nat)
    (now : Instant) : Except Failure Decimal :=
  values.foldlM (fun d value => a.stepWith (place d) value count now) (.zero false)

/-- Like results are accepted alike. -/
theorem accept_alike {x y : Except EvalError Result} (h : Related Result.Alike x y) :
    Related Decimal.Alike (accept value x) (accept value y) := by
  cases h with
  | error err => exact .error _
  | @ok r s h =>
    have hnumber : Option.Rel Decimal.Alike (r.value?.bind Value.widen?)
        (s.value?.bind Value.widen?) := by
      cases h with
      | absent k => exact .none
      | present h => exact h.widen?
    dsimp only [accept, orFailure, bind, Except.bind] at hnumber ⊢
    generalize r.value?.bind Value.widen? = x, s.value?.bind Value.widen? = y at *
    cases hnumber with
    | none => exact .error _
    | some h => exact .ok h

/-- An expression that converts the aggregate to a decimal gets it back, a NaN as the quiet one. -/
theorem eval_aggregate (a : Aggregate) (d : Decimal) (value : String) (count : Nat) (now : Instant)
    (format : Option String) :
    eval (a.environment d value count now) (.convert .decimal (.attr aggregateName) format) =
      .ok (.present (.decimal (if d.isNaN then .nan else d))) := by
  have hattr : eval (a.environment d value count now) (.attr aggregateName) =
      .ok (.present (.string d.render)) := rfl
  rw [eval_convert_of_present _ _ hattr, Value.convert, readDecimal_render]
  rfl

theorem lookupBeside_eq {name : String} (h : name ≠ aggregateName) :
    lookupBeside value count name = stepLookup d value count name := by
  rw [lookupBeside, stepLookup, if_neg h]

/-- One step of `fold_alike_stepWith`. -/
theorem step_alike_stepWith (ha : a.expr.NamedOnlyIn aggregateName (·.readsAsDecimal aggregateName))
    (hnew : ∀ env, eval env new = .ok (.present (.decimal d')))
    (hfixed : ∀ n ∈ a.expr.nodes, ∀ anchored source, n.pattern? = some (anchored, source) →
      (source.substitute (·.readsAsDecimal aggregateName) new).fixedPattern? anchored =
        source.fixedPattern? anchored)
    (h : d.Alike d') :
    Related Decimal.Alike (a.step d value count now) (a.stepWith new value count now) := by
  rw [step_eq_accept, stepWith]
  refine accept_alike (eval_substitute ha (fun other hother => lookupBeside_eq hother) ?_ ?_ hfixed)
  · intro n hn
    obtain ⟨format, rfl⟩ := Expr.readsAsDecimal_iff.mp hn
    exact kind_of_eval (hnew .constant)
  · intro n hn
    obtain ⟨format, rfl⟩ := Expr.readsAsDecimal_iff.mp hn
    -- both are the aggregate, except that the text has lost the bits of a NaN
    rw [eval_aggregate, hnew]
    exact .ok (.present (d.readBack_alike.trans h).decimal)

/-- The texts between the steps make no difference. -/
theorem fold_alike_foldWith {place : Decimal → Expr}
    (ha : a.expr.NamedOnlyIn aggregateName (·.readsAsDecimal aggregateName))
    (hplace : ∀ d env, eval env (place d) = .ok (.present (.decimal d)))
    (hfixed : ∀ n ∈ a.expr.nodes, ∀ anchored source, n.pattern? = some (anchored, source) → ∀ d,
      (source.substitute (·.readsAsDecimal aggregateName) (place d)).fixedPattern? anchored =
        source.fixedPattern? anchored) (values : List String) :
    Related Decimal.Alike (a.fold values count now) (a.foldWith place values count now) := by
  rw [fold, foldWith]
  refine .foldlM values (fun value _ d d' h => ?_) (.refl _)
  exact step_alike_stepWith ha (hplace d')
    (fun n hn anchored source hp => hfixed n hn anchored source hp d') h

/-! ### What may take the place -/

theorem fixedPattern?_substitute_exactly (d : Decimal) (source : Expr) (anchored : Bool) :
    (source.substitute (·.readsAsDecimal aggregateName) (.exactly aggregateName d)).fixedPattern?
      anchored = source.fixedPattern? anchored := by
  refine Expr.fixedPattern?_substitute ?_ ?_
  · intro n hn
    obtain ⟨format, rfl⟩ := Expr.readsAsDecimal_iff.mp hn
    rfl
  · rfl

/-- A source that does not name the aggregate stays as it is. -/
theorem substitute_eq_self_of_not_mem {source : Expr} (h : .attr aggregateName ∉ source.nodes) :
    source.substitute (·.readsAsDecimal aggregateName) new = source := by
  refine Expr.substitute_eq_self fun n hn hpick => h ?_
  obtain ⟨format, rfl⟩ := Expr.readsAsDecimal_iff.mp hpick
  exact Expr.mem_nodes_trans (Expr.mem_nodes_of_mem_operands (List.mem_singleton_self _)
    (Expr.mem_nodes_self _)) hn

/-- Every decimal is read back from its text as it was, a NaN as the quiet one, and so an expression
gets back the aggregate that it converts from an attribute. If it does nothing else with the
attribute, a fold over any number of values is the one that has the exact aggregate in the place of
each conversion, up to the bits of a NaN. A literal of the aggregate may stand there if no pattern
names the aggregate. -/
theorem aggregate_text_keeps_decimal (a : Aggregate) (count : Nat) (now : Instant) :
    (∀ d : Decimal, readDecimal d.render = .ok (if d.isNaN then .nan else d)) ∧
    (∀ d value format,
      eval (a.environment d value count now) (.convert .decimal (.attr aggregateName) format) =
        .ok (.present (.decimal (if d.isNaN then .nan else d)))) ∧
    (a.expr.NamedOnlyIn aggregateName (·.readsAsDecimal aggregateName) → ∀ values,
      Related Decimal.Alike (a.fold values count now)
        (a.foldWith (.exactly aggregateName) values count now) ∧
      ((∀ n ∈ a.expr.nodes, ∀ anchored source, n.pattern? = some (anchored, source) →
          .attr aggregateName ∉ source.nodes) →
        Related Decimal.Alike (a.fold values count now)
          (a.foldWith (fun d => .literal (.present (.decimal d))) values count now))) := by
  refine ⟨readDecimal_render, fun d value => a.eval_aggregate d value count now,
    fun ha values => ⟨?_, fun hpatterns => ?_⟩⟩
  · refine fold_alike_foldWith ha (fun _ _ => rfl) (fun _ _ anchored source _ d => ?_) values
    exact fixedPattern?_substitute_exactly d source anchored
  · refine fold_alike_foldWith ha (fun _ _ => rfl) (fun n hn anchored source hp d => ?_) values
    rw [substitute_eq_self_of_not_mem (hpatterns n hn anchored source hp)]

/-- The sum of a tenth and two tenths, which is the decimal after three tenths. Minus zero and the
least positive decimal are read back. -/
theorem aggregate_text_keeps_decimal_sum :
    let number (name : String) := Expr.convert .decimal (.attr name) none
    let a : Aggregate :=
      ⟨.arithmetic .plus (number aggregateName) (number valueName), .default⟩
    let literal (d : Decimal) := Expr.literal (.present (.decimal d))
    readDecimal (Decimal.zero true).render = .ok (.zero true) ∧
    eval (a.environment ⟨1⟩ "0" 1 .epoch) (number aggregateName) = .ok (.present (.decimal ⟨1⟩)) ∧
    a.expr.NamedOnlyIn aggregateName (·.readsAsDecimal aggregateName) ∧
    a.foldWith (.exactly aggregateName) ["0.1", "0.2"] 2 .epoch = .ok ⟨0x3FD3333333333334⟩ ∧
    a.foldWith literal ["0.1", "0.2"] 2 .epoch = .ok ⟨0x3FD3333333333334⟩ := by
  intro number a literal
  obtain ⟨hread, heval, hfold⟩ := aggregate_text_keeps_decimal a 2 .epoch
  have hnamed : a.expr.NamedOnlyIn aggregateName (·.readsAsDecimal aggregateName) := by
    constructor
    · nofun
    · simp [a, number, Expr.nodes_eq, Expr.operands, Expr.readsAsDecimal, aggregateName, valueName]
  have hsum : a.fold ["0.1", "0.2"] 2 .epoch = .ok ⟨0x3FD3333333333334⟩ := by decide +kernel
  have hsame (outcome : Except Failure Decimal)
      (h : Related Decimal.Alike (a.fold ["0.1", "0.2"] 2 .epoch) outcome) :
      outcome = .ok ⟨0x3FD3333333333334⟩ := by
    rw [hsum] at h
    cases h with
    | ok h => rw [h.eq_of_isNaN_eq_false (by decide +kernel)]
  have hpattern : ∀ n ∈ a.expr.nodes, n.pattern? = none := by
    simp [a, number, Expr.nodes_eq, Expr.operands, Expr.pattern?]
  obtain ⟨hexactly, hliteral⟩ := hfold hnamed ["0.1", "0.2"]
  refine ⟨(hread _).trans (by decide +kernel), (heval ⟨1⟩ "0" none).trans (by decide +kernel),
    hnamed, hsame _ hexactly, hsame _ (hliteral fun n hn anchored source hp => ?_)⟩
  cases (hpattern n hn).symm.trans hp

end Aggregate

end RecordExpr
