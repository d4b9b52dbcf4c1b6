import Mathlib.Data.Prod.Basic
import RecordExpr.Proofs.Validation.Issues

/-!
# Issues and the nodes that they belong to

An issue belongs to a node (`Issue.owner`): that of a date format has the path of the node itself,
and every other one that of an operand. The issues of a node have different kinds or paths, and
those of different nodes have different paths unless their kinds differ, so no two issues of a tree
have the same kind and path (`nodup_validate`). The issues of kinds of operands are just those of
the operands that their slots do not accept.

The main statement is `paths_identify_nodes`.
-/

namespace RecordExpr

namespace Expr

/-! ### The issues of a node -/

/-- The issues of a node that depend on constants in it. -/
def constantIssues (e : Expr) (path : Path) : List Issue :=
  e.formatIssues path ++ e.patternIssues path ++ e.divisorIssues path

theorem nodeIssues_eq (e : Expr) (path : Path) :
    e.nodeIssues path = e.slotIssues path ++ e.constantIssues path := by
  simp [nodeIssues, constantIssues]

/-- The path of an operand of a node. -/
def IsOperandPath (e : Expr) (path p : Path) : Prop := ∃ c ∈ e.children, p = path ++ [c.2]

end Expr

/-- There is at most one issue, of some kind and at one of some paths. -/
def AtMostOne (k : IssueKind) (P : Path → Prop) (is : List Issue) : Prop :=
  is = [] ∨ ∃ i, is = [i] ∧ i.kind = k ∧ P i.path

namespace AtMostOne

variable {k : IssueKind} {P : Path → Prop} {is : List Issue} {i : Issue}

/-- There is no more than one kind of issue among such issues. -/
theorem kinds_sublist (h : AtMostOne k P is) : (is.map Issue.kind).Sublist [k] := by
  rcases h with rfl | ⟨i, rfl, rfl, -⟩
  · exact List.nil_sublist _
  · exact .refl _

theorem of_mem (h : AtMostOne k P is) (hi : i ∈ is) : i.kind = k ∧ P i.path := by
  rcases h with rfl | ⟨j, rfl, hj⟩
  · cases hi
  · rwa [List.mem_singleton.mp hi]

end AtMostOne

namespace Expr

variable {e n x : Expr} {p q : Path} {i : Issue}

/-- A node has one date format, and issues with it are issues of the node. -/
theorem formatIssues_atMostOne (e : Expr) (path : Path) :
    AtMostOne .invalidDateFormat (· = path) (e.formatIssues path) := by
  unfold formatIssues
  split
  · split
    · exact .inl rfl
    · exact .inr ⟨_, rfl, rfl, rfl⟩
  · exact .inl rfl

/-- It has one pattern, and issues with that are issues of an operand. -/
theorem patternIssues_atMostOne (e : Expr) (path : Path) :
    AtMostOne .invalidPattern (e.IsOperandPath path) (e.patternIssues path) := by
  unfold patternIssues
  split
  · exact .inl rfl
  · next anchored source h =>
    have hc : (source, ⟨.pattern, none⟩) ∈ e.children := by
      rcases pattern?_eq_some_iff.mp h with ⟨op, subject, rfl⟩ | ⟨subject, replacement, rfl⟩
      · exact .tail _ (.head _)
      · exact .tail _ (.head _)
    unfold madeIssues
    split
    · exact .inl rfl
    · exact .inl rfl
    · exact .inl rfl
    · exact .inr ⟨_, rfl, rfl, _, hc, rfl⟩

/-- It has one divisor. -/
theorem divisorIssues_atMostOne (e : Expr) (path : Path) :
    AtMostOne .zeroDivisor (e.IsOperandPath path) (e.divisorIssues path) := by
  unfold divisorIssues
  split
  · next op subject r =>
    have hc : (literal r, ⟨.operand, none⟩) ∈ (arithmetic op subject (literal r)).children :=
      .tail _ (.head _)
    split
    · exact .inr ⟨_, rfl, rfl, _, hc, rfl⟩
    · exact .inl rfl
  · exact .inl rfl

theorem mem_constantIssues (h : i ∈ e.constantIssues p) :
    i.kind = .invalidDateFormat ∧ i.path = p ∨
      (i.kind = .invalidPattern ∨ i.kind = .zeroDivisor) ∧ e.IsOperandPath p i.path := by
  rw [constantIssues, List.mem_append, List.mem_append] at h
  rcases h with (h | h) | h
  · exact .inl ((e.formatIssues_atMostOne p).of_mem h)
  · obtain ⟨hk, hp⟩ := (e.patternIssues_atMostOne p).of_mem h
    exact .inr ⟨.inl hk, hp⟩
  · obtain ⟨hk, hp⟩ := (e.divisorIssues_atMostOne p).of_mem h
    exact .inr ⟨.inr hk, hp⟩

/-- The three checks on constants report under three codes. -/
theorem nodup_kinds_constantIssues (e : Expr) (path : Path) :
    ((e.constantIssues path).map Issue.kind).Nodup := by
  have hkinds : ((e.constantIssues path).map Issue.kind).Sublist
      [.invalidDateFormat, .invalidPattern, .zeroDivisor] := by
    rw [constantIssues, List.map_append, List.map_append]
    exact ((e.formatIssues_atMostOne path).kinds_sublist.append
      (e.patternIssues_atMostOne path).kinds_sublist).append
      (e.divisorIssues_atMostOne path).kinds_sublist
  exact hkinds.nodup (by decide)

/-- The slots of a node are checked along its steps, each of them once. -/
theorem slotIssuesFrom_paths_sublist (e : Expr) (path : Path) (index : Nat) (steps : List Step)
    (slots : List Slot) (kinds : List Kind) :
    ((e.slotIssuesFrom path index steps slots kinds).map Issue.path).Sublist
      (steps.map fun s => path ++ [s]) := by
  induction steps generalizing index slots kinds with
  | nil => exact .refl _
  | cons step steps ih =>
    cases slots with
    | nil => exact List.nil_sublist _
    | cons slot slots =>
      cases kinds with
      | nil => exact List.nil_sublist _
      | cons actual actuals =>
        rw [slotIssuesFrom]
        split
        · exact .cons _ (ih _ _ _)
        · exact .cons_cons _ (ih _ _ _)

/-- No operand of a node is reported twice for its kind. -/
theorem nodup_paths_slotIssues (e : Expr) (path : Path) :
    ((e.slotIssues path).map Issue.path).Nodup := by
  refine (e.slotIssuesFrom_paths_sublist path 0 e.steps e.slots _).nodup ?_
  exact e.nodup_steps.map fun s t h => List.head_eq_of_cons_eq (List.append_cancel_left h)

theorem isOperandPath_of_mem_slotIssues (h : i ∈ e.slotIssues p) : e.IsOperandPath p i.path := by
  obtain ⟨j, step, slot, x, hstep, -, hx, -, rfl⟩ := mem_slotIssues_iff.mp h
  refine ⟨(x, step), ?_, rfl⟩
  exact List.mem_iff_getElem?.mpr ⟨j, List.getElem?_zip_eq_some.mpr ⟨hx, hstep⟩⟩

/-- No two issues of a node have the same kind and path. -/
theorem nodup_nodeIssues (e : Expr) (path : Path) :
    ((e.nodeIssues path).map fun i => (i.kind, i.path)).Nodup := by
  rw [nodeIssues_eq, List.map_append, List.nodup_append]
  refine ⟨?_, ?_, ?_⟩
  -- those of operands are told apart by their paths, the others by their kinds
  · refine .of_map Prod.snd ?_
    rw [List.map_map]
    exact e.nodup_paths_slotIssues path
  · refine .of_map Prod.fst ?_
    rw [List.map_map]
    exact e.nodup_kinds_constantIssues path
  · simp only [List.mem_map]
    rintro _ ⟨i, hi, rfl⟩ _ ⟨j, hj, rfl⟩ h
    have hk : i.kind = j.kind := congrArg Prod.fst h
    rcases kind_of_mem_slotIssues hi with hi | hi <;>
      rcases mem_constantIssues hj with ⟨hj, -⟩ | ⟨hj | hj, -⟩ <;>
        cases (hi.symm.trans hk).trans hj

/-- Issues with formats stand at the node, all others at one of its operands. -/
theorem issue_cases (h : i ∈ e.nodeIssues p) :
    i.kind = .invalidDateFormat ∧ i.path = p ∨
      i.kind ≠ .invalidDateFormat ∧ e.IsOperandPath p i.path := by
  rw [nodeIssues_eq, List.mem_append] at h
  rcases h with h | h
  · refine .inr ⟨?_, isOperandPath_of_mem_slotIssues h⟩
    rcases kind_of_mem_slotIssues h with hk | hk <;> rw [hk] <;> decide
  · rcases mem_constantIssues h with hf | ⟨hk, hp⟩
    · exact .inl hf
    · refine .inr ⟨?_, hp⟩
      rcases hk with hk | hk <;> rw [hk] <;> decide

end Expr

/-- The path of the node that an issue belongs to. The issue of a date format has this path itself,
and every other one that of an operand. -/
def Issue.owner (i : Issue) : Path :=
  if i.kind = .invalidDateFormat then i.path else i.path.dropLast

variable {e n x : Expr} {p q : Path} {i : Issue}

/-- The code and the path of an issue tell the node that it was found at. -/
theorem owner_of_mem_nodeIssues (h : i ∈ n.nodeIssues p) : i.owner = p := by
  rcases Expr.issue_cases h with ⟨hk, hp⟩ | ⟨hk, c, -, hp⟩
  · rw [Issue.owner, if_pos hk, hp]
  · rw [Issue.owner, if_neg hk, hp, List.dropLast_concat]

/-! ### The issues of a tree -/

/-- Every issue has the path of a node. -/
theorem exists_mem_located_of_mem_validate (h : i ∈ validate e) :
    ∃ x, (i.path, x) ∈ e.located := by
  obtain ⟨p, n, hn, hi⟩ := mem_validate_iff.mp h
  rcases Expr.issue_cases hi with ⟨-, hp⟩ | ⟨-, c, hc, hp⟩
  · exact ⟨n, hp ▸ hn⟩
  · exact ⟨c.1, hp ▸ Expr.mem_located_of_mem_children hn hc⟩

/-- No two issues have the same kind and path. -/
theorem nodup_validate (e : Expr) : ((validate e).map fun i => (i.kind, i.path)).Nodup := by
  rw [validate, List.map_flatMap, List.nodup_flatMap]
  refine ⟨fun l _ => l.2.nodup_nodeIssues l.1, ?_⟩
  have hpaths : e.located.Pairwise fun l m => l.1 ≠ m.1 := List.pairwise_map.mp e.nodup_paths
  refine hpaths.imp fun {l m} hne => ?_
  simp only [Function.onFun, List.disjoint_left, List.mem_map]
  rintro _ ⟨i, hi, rfl⟩ ⟨j, hj, h⟩
  obtain ⟨hk, hp⟩ := Prod.mk.inj h
  -- kind and path decide the owner, and the two nodes have different paths
  have howner : j.owner = i.owner := by rw [Issue.owner, Issue.owner, hk, hp]
  exact hne ((owner_of_mem_nodeIssues hi).symm.trans
    (howner.symm.trans (owner_of_mem_nodeIssues hj)))

/-- An issue of an operand that its slot does not accept. -/
def Issue.IsOfOperand (i : Issue) : Prop :=
  i.kind = .operandTypeMismatch ∨ i.kind = .incompatibleOperands

theorem mem_slotIssues_of_isOfOperand (h : i ∈ n.nodeIssues p) (hi : i.IsOfOperand) :
    i ∈ n.slotIssues p := by
  rw [Expr.nodeIssues_eq, List.mem_append] at h
  refine h.resolve_right fun h => ?_
  rcases Expr.mem_constantIssues h with ⟨hk, -⟩ | ⟨hk | hk, -⟩ <;>
    rcases hi with hi | hi <;> cases hi.symm.trans hk

/-- An issue with the kind of an operand points to a slot that does not take it. -/
theorem operandAt_of_mem_validate (h : i ∈ validate e) (hi : i.IsOfOperand) :
    ∃ x n slot, OperandAt e i.path x n slot ∧ slot.accepts x.kind = false ∧
      i.actual = some x.kind := by
  obtain ⟨p, n, hn, h⟩ := mem_validate_iff.mp h
  obtain ⟨j, step, slot, x, hstep, hslot, hx, ha, rfl⟩ :=
    Expr.mem_slotIssues_iff.mp (mem_slotIssues_of_isOfOperand h hi)
  exact ⟨x, n, slot, .mk hn hstep hslot hx, ha, rfl⟩

/-- Each slot that does not take its operand is reported under the path of the operand. -/
theorem OperandAt.exists_issue {slot : Slot} (h : OperandAt e p x n slot)
    (ha : slot.accepts x.kind = false) : ∃ i ∈ validate e, i.IsOfOperand ∧ i.path = p := by
  obtain @⟨p, n, x, step, slot, j, hn, hstep, hslot, hx⟩ := h
  have hi : n.slotIssue p j step slot x.kind ∈ n.slotIssues p :=
    Expr.mem_slotIssues_iff.mpr ⟨j, step, slot, x, hstep, hslot, hx, ha, rfl⟩
  refine ⟨_, mem_validate_iff.mpr ⟨p, n, hn, ?_⟩, Expr.kind_of_mem_slotIssues hi, rfl⟩
  rw [Expr.nodeIssues_eq]
  exact List.mem_append_left _ hi

/-- Validation goes to every node once, and no two nodes have paths with the same text. Every issue
has the path of a node, and no two have the same kind and paths with the same text. Every node but
the root is an operand of one other node, in one slot; its path has an issue of an operand just if
this slot does not accept its kind, which is the kind that the issue names then. -/
theorem paths_identify_nodes (e : Expr) :
    (e.located.map Prod.snd).Perm e.nodes ∧
    (e.located.map fun l => l.1.render).Nodup ∧
    (∀ i ∈ validate e, ∃ x, (i.path, x) ∈ e.located) ∧
    ((validate e).map fun i => (i.kind, i.path.render)).Nodup ∧
    (∀ p x, (p, x) ∈ e.located → p ≠ [] → ∃ n slot, OperandAt e p x n slot ∧
      ∀ n' slot', OperandAt e p x n' slot' → n' = n ∧ slot' = slot) ∧
    ∀ p x, (p, x) ∈ e.located →
      ((∃ i ∈ validate e, i.IsOfOperand ∧ i.path.render = p.render) ↔
        ∃ n slot, OperandAt e p x n slot ∧ slot.accepts x.kind = false) ∧
      ∀ i ∈ validate e, i.IsOfOperand → i.path.render = p.render → i.actual = some x.kind := by
  -- an issue with the path of a node is about this node, since texts tell paths apart
  have hissue {p : Path} {x : Expr} {i : Issue} (hx : (p, x) ∈ e.located) (hi : i ∈ validate e)
      (ho : i.IsOfOperand) (hp : i.path.render = p.render) :
      (∃ n slot, OperandAt e p x n slot ∧ slot.accepts x.kind = false) ∧
        i.actual = some x.kind := by
    obtain rfl : i.path = p := Path.render_injective hp
    obtain ⟨y, n, slot, hy, ha, hactual⟩ := operandAt_of_mem_validate hi ho
    obtain rfl : y = x := Expr.eq_of_mem_located hy.mem_located hx
    exact ⟨⟨n, slot, hy, ha⟩, hactual⟩
  refine ⟨e.perm_nodes, ?_, fun i hi => exists_mem_located_of_mem_validate hi, ?_, ?_, ?_⟩
  · have h := e.nodup_paths.map Path.render_injective
    rwa [List.map_map] at h
  · have h := (nodup_validate e).map (Function.Injective.prodMap Function.injective_id
      Path.render_injective)
    rwa [List.map_map] at h
  · intro p x hx hp
    obtain ⟨n, slot, h⟩ := exists_operandAt hx hp
    exact ⟨n, slot, h, fun n' slot' h' => h.unique h'⟩
  · intro p x hx
    refine ⟨⟨?_, ?_⟩, fun i hi ho hp => (hissue hx hi ho hp).2⟩
    · rintro ⟨i, hi, ho, hp⟩
      exact (hissue hx hi ho hp).1
    · rintro ⟨n, slot, h, ha⟩
      obtain ⟨i, hi, ho, rfl⟩ := h.exists_issue ha
      exact ⟨i, hi, ho, rfl⟩

/-- Of three operands the second one is a text where a truth is expected. -/
theorem paths_identify_nodes_second_of_three :
    let yes := Expr.literal (.present (.string "yes"))
    let found := Expr.test .find (.attr "a") (.pattern false) (.literal (.present (.string "(x")))
    let e := Expr.logical .and [.literal (.present (.boolean true)), yes, found]
    let p : Path := [⟨.operand, some 1⟩]
    p.render = "root.operand[1]" ∧ (p, yes) ∈ e.located ∧
    (∃ i ∈ validate e, i.IsOfOperand ∧ i.path.render = p.render) ∧
    ∀ i ∈ validate e, i.IsOfOperand → i.path.render = p.render → i.actual = some .string := by
  intro yes found e p
  have hp : (p, yes) ∈ e.located := by
    rw [Expr.mem_located_iff]
    exact .inl ⟨(yes, ⟨.operand, some 1⟩), .tail _ (.head _), [], .head _, rfl⟩
  obtain ⟨-, -, -, -, -, hissues⟩ := paths_identify_nodes e
  obtain ⟨hiff, hactual⟩ := hissues p yes hp
  have hoperand : OperandAt e p yes e ⟨.operand, [.boolean]⟩ :=
    .mk (j := 1) (e.mem_located_self) rfl rfl rfl
  exact ⟨by decide, hp, hiff.mpr ⟨e, _, hoperand, rfl⟩, hactual⟩

end RecordExpr
