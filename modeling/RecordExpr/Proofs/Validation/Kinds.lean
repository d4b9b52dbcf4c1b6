import RecordExpr.Proofs.Eval.Failure
import RecordExpr.Proofs.Validation.Issues

/-!
# Errors of kinds are seen in advance

An evaluation that meets a value of a kind that an operator does not take fails with `illTyped`.
Validation, which looks at declared kinds only, has an issue for the operator then: the failing node
has an operand that its slot does not accept (`exists_raises_of_eval_error`), and so an issue of its
own (`exists_issue_of_not_fits`). This takes for granted that string tests look for what they take,
of which validation says nothing.
-/

namespace RecordExpr

variable {e : Expr}

theorem exists_issue_of_illTyped (hs : ∀ n ∈ e.nodes, n.SearchFits) {env : Environment}
    {operator : String} {expected : List (List Kind)} {actual : List Kind}
    (h : eval env e = .error (.illTyped operator expected actual)) :
    ∃ i ∈ validate e,
      (i.kind = .operandTypeMismatch ∨ i.kind = .incompatibleOperands) ∧ i.operator = operator := by
  obtain ⟨n, hn, hr⟩ := exists_raises_of_eval_error h
  have hc : operator = n.operator ∧ (¬n.Fits ∨ ¬n.SearchFits) := by
    rcases hr with hr | ⟨_, hr⟩ <;> exact hr.illTyped_cases
  obtain ⟨rfl, hfits | hsearch⟩ := hc
  · exact exists_issue_of_not_fits hn hfits
  · exact absurd (hs n hn) hsearch

/-- Validation sees every error of kinds in advance: there is an issue of the operator that fails,
so nothing of the sort happens where there are no errors. -/
theorem illTyped_is_seen_in_advance (hs : ∀ n ∈ e.nodes, n.SearchFits) :
    (∀ env operator expected actual, eval env e = .error (.illTyped operator expected actual) →
      ∃ i ∈ validate e,
        (i.kind = .operandTypeMismatch ∨ i.kind = .incompatibleOperands) ∧ i.operator = operator) ∧
    (hasErrors (validate e) = false → ∀ env operator expected actual,
      eval env e ≠ .error (.illTyped operator expected actual)) := by
  refine ⟨fun env operator expected actual h => exists_issue_of_illTyped hs h, ?_⟩
  intro hv env operator expected actual h
  obtain ⟨i, hi, hk, _⟩ := exists_issue_of_illTyped hs h
  have hw : i.kind = .zeroDivisor := kind_of_mem_validate hv hi
  rcases hk with hk | hk <;> cases hk.symm.trans hw

/-- The negation of a text that is found: it has an issue and fails; that of a constant does
neither. -/
theorem illTyped_is_seen_in_advance_in_negation :
    (∃ i ∈ validate (.unary .not (.attr "a")),
      (i.kind = .operandTypeMismatch ∨ i.kind = .incompatibleOperands) ∧ i.operator = "not") ∧
    eval .constant (.unary .not (.literal (.present (.boolean true)))) ≠
      .error (.illTyped "not" [[.boolean]] [.boolean]) := by
  constructor
  · refine (illTyped_is_seen_in_advance ?_).1 ⟨fun _ => some "x", .epoch, .default⟩ "not"
      [[.boolean]] [.string] rfl
    simp [Expr.nodes_eq, Expr.operands, Expr.SearchFits]
  · refine (illTyped_is_seen_in_advance ?_).2 rfl .constant _ _ _
    simp [Expr.nodes_eq, Expr.operands, Expr.SearchFits]

end RecordExpr
