import RecordExpr.Proofs.Eval.Failure
import RecordExpr.Proofs.Validation.Issues

/-!
# Patterns that validation cannot see

A pattern that belongs to an expression is made in advance, and validation has an issue for it if it
is refused. So where validation finds no error, a pattern that an evaluation refuses was made there,
from a source that is not fixed (`source_not_fixed_of_invalidPattern`): it depends on the record,
the clock or the configured date format, and could not have been looked at before.

A fixed source that is absent in advance needs care, since nothing is stored for it, and its pattern
is made anew in every evaluation. But if it has a text in some evaluation, it has the same text in
advance, or it meets the limit on texts there, and that is stored as an error
(`isSome_fixedPattern?_of_eval`). So a pattern is never made from such a source.
-/

namespace RecordExpr

variable {env : Environment} {e n source : Expr} {anchored : Bool} {s : String}
  {fault : Regex.Fault}

theorem isFixed_eq_false_iff :
    source.isFixed = false ↔ source.isConstant = false ∨ source.usesDateFormat = true := by
  rw [Expr.isFixed, Bool.and_eq_false_iff, Bool.not_eq_false']

/-- Something is stored for a fixed source that has a text in some evaluation. -/
theorem isSome_fixedPattern?_of_eval (hf : source.isFixed)
    (h : eval env source = .ok (.present (.string s))) :
    (source.fixedPattern? anchored).isSome := by
  rw [Option.isSome_iff_exists]
  rcases eval_eq_or_refuses_of_isFixed hf env .constant with he | ⟨err, _, he⟩ | ⟨err, _, he⟩
  · have hs : eval .constant source = .ok (.present (.string s)) := he.symm.trans h
    exact ⟨_, fixedPattern?_eq_some_iff.mpr ⟨hf, .inr ⟨s, hs, rfl⟩⟩⟩
  · cases h.symm.trans he
  · exact ⟨_, fixedPattern?_eq_some_iff.mpr ⟨hf, .inl ⟨err, he, rfl⟩⟩⟩

/-- Where there are no errors, a node that refuses a pattern has made it from a source that is not
fixed. -/
theorem source_of_raises_invalidPattern (h : hasErrors (validate e) = false) (hn : n ∈ e.nodes)
    (hr : Raises env n (.invalidPattern s fault)) :
    ∃ anchored source, n.pattern? = some (anchored, source) ∧ source.isFixed = false ∧
      eval env source = .ok (.present (.string s)) ∧
        compilePattern s anchored = .error (.invalidPattern s fault) := by
  obtain ⟨anchored, source, hp, hstored | ⟨hnone, hs, hc⟩⟩ := hr.invalidPattern_cases
  · -- validation has an issue for a pattern that was refused in advance
    obtain ⟨_, _, he⟩ := error_of_fixedPattern? h hn hp hstored
    cases he
  · refine ⟨anchored, source, hp, ?_, hs, hc⟩
    rw [← Bool.not_eq_true]
    intro hf
    have hsome : (source.fixedPattern? anchored).isSome := isSome_fixedPattern?_of_eval hf hs
    rw [hnone] at hsome
    cases hsome

/-- Where validation finds no error, an evaluation refuses a pattern only if its source is not
constant or depends on the configured date format. The text that is refused is the value of this
source in the evaluation. -/
theorem source_not_fixed_of_invalidPattern (h : hasErrors (validate e) = false)
    (he : eval env e = .error (.invalidPattern s fault)) :
    ∃ n ∈ e.nodes, ∃ anchored source, n.pattern? = some (anchored, source) ∧
      (source.isConstant = false ∨ source.usesDateFormat = true) ∧
        eval env source = .ok (.present (.string s)) ∧
          compilePattern s anchored = .error (.invalidPattern s fault) := by
  obtain ⟨n, hn, hr | ⟨hfix, hr⟩⟩ := exists_raises_of_eval_error he
  · obtain ⟨anchored, source, hp, hf, hs, hc⟩ := source_of_raises_invalidPattern h hn hr
    exact ⟨n, hn, anchored, source, hp, isFixed_eq_false_iff.mp hf, hs, hc⟩
  · -- a pattern within a fixed source has a fixed source itself
    obtain ⟨_, source, hp, hf, _, _⟩ := source_of_raises_invalidPattern h hn hr
    have hmem : source ∈ n.nodes :=
      Expr.mem_nodes_of_mem_operands (Expr.mem_operands_of_pattern? hp) (Expr.mem_nodes_self _)
    rw [Expr.isFixed_of_mem_nodes hfix hmem] at hf
    cases hf

/-- Of two patterns the one that belongs to the expression is made, and the other one, which the
record names, is refused. -/
theorem source_not_fixed_of_invalidPattern_named_by_record :
    let env : Environment := ⟨fun _ => some "(x", .epoch, .default⟩
    let e := Expr.test .find
      (.replace (.literal (.present (.string "a"))) (.pattern false) (.attr "p")
        (.literal (.present (.string "b"))))
      (.pattern false) (.literal (.present (.string "x")))
    validate e = [] ∧ eval env e = .error (.invalidPattern "(x" .unclosedGroup) ∧
      ∃ n ∈ e.nodes, ∃ anchored source, n.pattern? = some (anchored, source) ∧
        (source.isConstant = false ∨ source.usesDateFormat = true) ∧
          eval env source = .ok (.present (.string "(x")) := by
  intro env e
  have hv : validate e = [] := rfl
  have he : eval env e = .error (.invalidPattern "(x" .unclosedGroup) := rfl
  have hn : hasErrors (validate e) = false := by
    rw [hv]
    rfl
  obtain ⟨n, hmem, anchored, source, hp, hf, hs, _⟩ := source_not_fixed_of_invalidPattern hn he
  exact ⟨hv, he, n, hmem, anchored, source, hp, hf, hs⟩

end RecordExpr
