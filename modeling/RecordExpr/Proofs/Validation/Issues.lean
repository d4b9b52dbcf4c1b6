import Mathlib.Logic.Basic
import Mathlib.Tactic.ByContra
import RecordExpr.Proofs.Expr.Fit
import RecordExpr.Proofs.Expr.Located
import RecordExpr.Validation

/-!
# The issues of an expression

Validation goes to every node of an expression, pattern sources included, since there is a step to
every operand (`length_steps`, `exists_mem_located`). So every issue of a node is one of the
expression (`exists_nodeIssues_subset`), and where there are no errors, no node has one. The issues
of operands are exactly those of the slots that do not accept the kind of their operand
(`mem_slotIssues_iff`).
-/

namespace RecordExpr

namespace Expr

/-! ### Issues of operands -/

/-- There is an issue for each slot that does not take the operand at its place, and for no
other. -/
theorem mem_slotIssuesFrom_iff {e : Expr} {path : Path} {index : Nat} {steps : List Step}
    {slots : List Slot} {kinds : List Kind} {i : Issue} :
    i ∈ e.slotIssuesFrom path index steps slots kinds ↔
      ∃ j step slot actual, steps[j]? = some step ∧ slots[j]? = some slot ∧
        kinds[j]? = some actual ∧ slot.accepts actual = false ∧
          i = e.slotIssue path (index + j) step slot actual := by
  induction steps generalizing index slots kinds with
  | nil => simp [slotIssuesFrom]
  | cons step steps ih =>
    cases slots with
    | nil => simp [slotIssuesFrom]
    | cons slot slots =>
      cases kinds with
      | nil => simp [slotIssuesFrom]
      | cons actual actuals =>
        -- the first operand is at place 0, and those after it are one place further on
        rw [← Nat.or_exists_add_one, slotIssuesFrom]
        simp only [List.getElem?_cons_zero, List.getElem?_cons_succ, ← Nat.add_assoc,
          Nat.add_right_comm index _ 1, Option.some.injEq, Nat.add_zero]
        cases h : slot.accepts actual with
        | true => simp [ih, h]
        | false => simp [ih, h]

/-- A node has an issue for each operand that its slot does not accept, and no other for operands.
-/
theorem mem_slotIssues_iff {e : Expr} {path : Path} {i : Issue} :
    i ∈ e.slotIssues path ↔
      ∃ j step slot x, e.steps[j]? = some step ∧ e.slots[j]? = some slot ∧ e.operands[j]? = some x ∧
        slot.accepts x.kind = false ∧ i = e.slotIssue path j step slot x.kind := by
  rw [slotIssues, mem_slotIssuesFrom_iff]
  simp only [List.getElem?_map, Option.map_eq_some_iff, Nat.zero_add]
  constructor
  · rintro ⟨j, step, slot, _, hstep, hslot, ⟨x, hx, rfl⟩, h⟩
    exact ⟨j, step, slot, x, hstep, hslot, hx, h⟩
  · rintro ⟨j, step, slot, x, hstep, hslot, hx, h⟩
    exact ⟨j, step, slot, x.kind, hstep, hslot, ⟨x, hx, rfl⟩, h⟩

/-- A node does not fit if one of its slots does not take its operand. -/
theorem not_fits_iff {e : Expr} :
    ¬e.Fits ↔ ∃ (j : Nat) (slot : Slot) (x : Expr),
      e.slots[j]? = some slot ∧ e.operands[j]? = some x ∧ slot.accepts x.kind = false := by
  simp only [Fits, not_forall, Bool.not_eq_true, List.mem_iff_getElem?, List.getElem?_zip_eq_some,
    exists_prop]
  constructor
  · rintro ⟨⟨slot, x⟩, ⟨j, hslot, hx⟩, h⟩
    exact ⟨j, slot, x, hslot, hx, h⟩
  · rintro ⟨j, slot, x, hslot, hx, h⟩
    exact ⟨(slot, x), ⟨j, hslot, hx⟩, h⟩

theorem exists_mem_slotIssues {e : Expr} (h : ¬e.Fits) (path : Path) :
    ∃ i, i ∈ e.slotIssues path := by
  obtain ⟨j, slot, x, hslot, hx, ha⟩ := not_fits_iff.mp h
  obtain ⟨hj, _⟩ := List.getElem?_eq_some_iff.mp hx
  have hs : j < e.steps.length := by rwa [length_steps]
  exact ⟨_, mem_slotIssues_iff.mpr
    ⟨j, e.steps[j], slot, x, List.getElem?_eq_getElem hs, hslot, hx, ha, rfl⟩⟩

theorem kind_of_mem_slotIssues {e : Expr} {path : Path} {i : Issue} (h : i ∈ e.slotIssues path) :
    i.kind = .operandTypeMismatch ∨ i.kind = .incompatibleOperands := by
  obtain ⟨j, step, slot, x, _, _, _, _, rfl⟩ := mem_slotIssues_iff.mp h
  rw [slotIssue]
  split
  · exact .inr rfl
  · exact .inl rfl

theorem operator_of_mem_slotIssues {e : Expr} {path : Path} {i : Issue}
    (h : i ∈ e.slotIssues path) : i.operator = e.operator := by
  obtain ⟨j, step, slot, x, _, _, _, _, rfl⟩ := mem_slotIssues_iff.mp h
  rfl

end Expr

/-! ### Issues of nodes -/

/-- Issues are found at the nodes of a tree, each with the path of its node. -/
theorem mem_validate_iff {e : Expr} {i : Issue} :
    i ∈ validate e ↔ ∃ p n, (p, n) ∈ e.located ∧ i ∈ n.nodeIssues p := by
  simp [validate]

theorem exists_nodeIssues_subset {n e : Expr} (h : n ∈ e.nodes) :
    ∃ path, n.nodeIssues path ⊆ validate e := by
  obtain ⟨path, hp⟩ := Expr.exists_mem_located h
  exact ⟨path, fun i hi => mem_validate_iff.mpr ⟨path, n, hp, hi⟩⟩

/-- An operand that does not fit is the matter of an issue. -/
theorem exists_issue_of_not_fits {n e : Expr} (hn : n ∈ e.nodes) (h : ¬n.Fits) :
    ∃ i ∈ validate e,
      (i.kind = .operandTypeMismatch ∨ i.kind = .incompatibleOperands) ∧
        i.operator = n.operator := by
  obtain ⟨path, hp⟩ := exists_nodeIssues_subset hn
  obtain ⟨i, hi⟩ := Expr.exists_mem_slotIssues h path
  refine ⟨i, hp ?_, Expr.kind_of_mem_slotIssues hi, Expr.operator_of_mem_slotIssues hi⟩
  simp [Expr.nodeIssues, hi]

/-! ### Expressions without errors -/

section NoErrors

variable {n e : Expr} {i : Issue}

/-- Where there are no errors, every issue is a warning. -/
theorem kind_of_mem_validate (h : hasErrors (validate e) = false) (hi : i ∈ validate e) :
    i.kind = .zeroDivisor := by
  rw [hasErrors, List.any_eq_false] at h
  have he := h i hi
  rw [Issue.isError, Issue.severity] at he
  cases hk : i.kind with
  | zeroDivisor => rfl
  | _ => simp [hk, IssueKind.severity] at he

/-- An expression of the kind that is required has no other errors than it has by itself. -/
theorem hasErrors_validateAs_eq_false_iff {k : Kind} :
    hasErrors (validateAs e k) = false ↔ hasErrors (validate e) = false ∧ e.kind = k := by
  have happend : hasErrors (validateAs e k) =
      (hasErrors (validate e) || hasErrors (e.kindIssues k)) := List.any_append
  have hkind : hasErrors (e.kindIssues k) = false ↔ e.kind = k := by
    rw [Expr.kindIssues]
    split
    · next hk => simp [hasErrors, hk]
    · next hk => simp [hasErrors, hk, Issue.isError, Issue.severity, IssueKind.severity]
  rw [happend, Bool.or_eq_false_iff, hkind]

/-- To require a kind does not make a report better. -/
theorem hasErrors_validate_of_validateFor {required : Option Kind}
    (h : hasErrors (validateFor e required) = false) : hasErrors (validate e) = false := by
  cases required with
  | none => exact h
  | some k => exact (hasErrors_validateAs_eq_false_iff.mp h).1

theorem kind_of_validateFor {k : Kind} (h : hasErrors (validateFor e (some k)) = false) :
    e.kind = k :=
  (hasErrors_validateAs_eq_false_iff.mp h).2

/-- A format that passed validation can be read. -/
theorem items?_of_hasErrors {target : Kind} {x : Expr} {f : String}
    (h : hasErrors (validate e) = false) (hn : .convert target x (some f) ∈ e.nodes) :
    DateFormat.items? f ≠ none := by
  intro hf
  obtain ⟨path, hp⟩ := exists_nodeIssues_subset hn
  have hi : (Expr.convert target x (some f)).plainIssue .invalidDateFormat path
      (EvalError.invalidDateFormat f .unknownSpecifier).message ∈ validate e := by
    refine hp ?_
    simp [Expr.nodeIssues, Expr.formatIssues, dateFormatItems, hf]
  cases kind_of_mem_validate h hi

/-- Only the faults of date formats are kept back where a pattern belongs to an expression. -/
theorem error_of_fixedPattern? {anchored : Bool} {source : Expr} {err : EvalError}
    (h : hasErrors (validate e) = false) (hn : n ∈ e.nodes)
    (hp : n.pattern? = some (anchored, source))
    (hc : source.fixedPattern? anchored = some (.error err)) :
    ∃ f fault, err = .invalidDateFormat f fault := by
  by_contra hne
  obtain ⟨path, hsub⟩ := exists_nodeIssues_subset hn
  have hpi : n.patternIssues path =
      [n.plainIssue .invalidPattern (path ++ [⟨.pattern, none⟩]) err.message] := by
    rw [Expr.patternIssues, hp]
    dsimp only
    rw [hc]
    cases err with
    | invalidDateFormat f fault => exact absurd ⟨f, fault, rfl⟩ hne
    | _ => rfl
  have hi : n.plainIssue .invalidPattern (path ++ [⟨.pattern, none⟩]) err.message ∈ validate e := by
    refine hsub ?_
    simp [Expr.nodeIssues, hpi]
  cases kind_of_mem_validate h hi

end NoErrors

end RecordExpr
