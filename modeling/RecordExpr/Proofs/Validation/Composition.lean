import Mathlib.Data.List.Infix
import RecordExpr.Proofs.Validation.Issues

/-!
# The issues of a tree come from those of its operands

An issue of an operand is one of the tree as well, with the step to the operand in front of its path
(`Issue.below`). The own issues of a node move with its path (`Expr.nodeIssues_append`), so whatever
the path is that a tree stands at, its issues are those of its operands one step further down, in
their order, and then the own ones of its root (`map_below_validate`). The issues of a subtree stand
in one piece among those of the tree (`isInfix_validate_of_mem_located`), and if there is no error
in the tree, there is none in the subtree.

A checker goes through a tree with the path that it has come to and what it has found so far. For
every path and every checker it adds just the issues of the tree below this path
(`Checker.issues_visit`), and nothing that it has found before changes.

The main statement is `issues_add_up`.
-/

namespace RecordExpr

variable {e n : Expr} {p : Path}

/-! ### Issues below a path -/

/-- An issue of a tree as it is in a larger one, where the root of that tree has some path. -/
def Issue.below (path : Path) (i : Issue) : Issue := { i with path := path ++ i.path }

theorem map_below_nil (is : List Issue) : is.map (Issue.below []) = is := List.map_id is

/-- Moving issues below a path may be done in two steps. -/
theorem map_below_append (p q : Path) (is : List Issue) :
    is.map (Issue.below (p ++ q)) = (is.map (Issue.below q)).map (Issue.below p) := by
  rw [List.map_map]
  refine List.map_congr_left fun i _ => ?_
  simp [Issue.below]

/-- An issue is as severe in a larger tree. -/
theorem hasErrors_map_below (path : Path) (is : List Issue) :
    hasErrors (is.map (Issue.below path)) = hasErrors is := by
  rw [hasErrors, List.any_map]
  rfl

/-- A report without errors has no part with errors. -/
theorem hasErrors_of_isInfix {is js : List Issue} (h : is <:+: js) (hj : hasErrors js = false) :
    hasErrors is = false := by
  rw [hasErrors, List.any_eq_false] at hj ⊢
  exact fun i hi => hj i (h.subset hi)

/-! ### The issues of a node -/

namespace Expr

/-- The path of a node is only put in front of what is found there, here and in the next lemmas. -/
theorem slotIssue_append (e : Expr) (path q : Path) (index : Nat) (step : Step) (slot : Slot)
    (actual : Kind) :
    e.slotIssue (path ++ q) index step slot actual =
      (e.slotIssue q index step slot actual).below path := by
  simp [slotIssue, Issue.below]

theorem slotIssues_append (e : Expr) (path q : Path) :
    e.slotIssues (path ++ q) = (e.slotIssues q).map (Issue.below path) := by
  rw [slotIssues, slotIssues]
  generalize 0 = index, e.steps = steps, e.slots = slots, e.operands.map (·.kind) = kinds
  fun_induction slotIssuesFrom e q index steps slots kinds with
  | case1 index step steps slot slots actual actuals rest ha ih =>
    rw [slotIssuesFrom, if_pos ha, ih]
  | case2 index step steps slot slots actual actuals rest ha ih =>
    rw [slotIssuesFrom, if_neg ha, ih, slotIssue_append, List.map_cons]
  | case3 index steps slots kinds hnil =>
    rw [slotIssuesFrom, List.map_nil]
    exact hnil

theorem formatIssues_append (e : Expr) (path q : Path) :
    e.formatIssues (path ++ q) = (e.formatIssues q).map (Issue.below path) := by
  unfold formatIssues
  split
  · split
    · rfl
    · rfl
  · rfl

theorem patternIssues_append (e : Expr) (path q : Path) :
    e.patternIssues (path ++ q) = (e.patternIssues q).map (Issue.below path) := by
  unfold patternIssues madeIssues
  split
  · rfl
  · split
    · rfl
    · rfl
    · rfl
    · simp [plainIssue, Issue.below]

theorem divisorIssues_append (e : Expr) (path q : Path) :
    e.divisorIssues (path ++ q) = (e.divisorIssues q).map (Issue.below path) := by
  unfold divisorIssues
  split
  · split
    · simp [plainIssue, Issue.below]
    · rfl
  · rfl

/-- The own issues of a node move with its path. -/
theorem nodeIssues_append (e : Expr) (path q : Path) :
    e.nodeIssues (path ++ q) = (e.nodeIssues q).map (Issue.below path) := by
  simp only [nodeIssues, List.map_append, slotIssues_append, formatIssues_append,
    patternIssues_append, divisorIssues_append]

end Expr

/-! ### The issues of a tree -/

/-- The issues of a tree below a path, found on a walk that begins there. -/
theorem map_below_validate_eq_flatMap (path : Path) (e : Expr) :
    (validate e).map (Issue.below path) =
      (e.locatedFrom path).flatMap fun l => l.2.nodeIssues l.1 := by
  rw [Expr.locatedFrom_eq_map, List.flatMap_map, validate, List.map_flatMap]
  simp only [Expr.nodeIssues_append]

/-- The issues of a tree below a path are those of its operands and then the own ones of its root.
-/
theorem map_below_validate (path : Path) (e : Expr) :
    (validate e).map (Issue.below path) =
      e.children.flatMap (fun c => (validate c.1).map (Issue.below (path ++ [c.2]))) ++
        e.nodeIssues path := by
  rw [map_below_validate_eq_flatMap, Expr.locatedFrom_eq, List.flatMap_append, List.flatMap_assoc,
    List.flatMap_singleton]
  simp only [map_below_validate_eq_flatMap]

/-- A report is that of the children, each below its step, and then that of the node itself. -/
theorem validate_eq (e : Expr) :
    validate e =
      e.children.flatMap (fun c => (validate c.1).map (Issue.below [c.2])) ++ e.nodeIssues [] := by
  have h := map_below_validate [] e
  rwa [map_below_nil] at h

/-- The report of a child stands in that of its parent without a gap. -/
theorem isInfix_validate_of_mem_children {c : Expr × Step} (hc : c ∈ e.children) :
    (validate c.1).map (Issue.below [c.2]) <:+: validate e := by
  rw [validate_eq e, List.flatMap_def]
  refine List.IsInfix.trans (List.infix_of_mem_flatten ?_) (List.prefix_append _ _).isInfix
  exact List.mem_map.mpr ⟨c, hc, rfl⟩

/-- The issues of a subtree stand in one piece among those of the tree. -/
theorem isInfix_validate_of_mem_located (h : (p, n) ∈ e.located) :
    (validate n).map (Issue.below p) <:+: validate e := by
  induction e using Expr.operands_induction generalizing p with
  | step e ih =>
    rcases Expr.mem_located_iff.mp h with ⟨c, hc, q, hq, rfl⟩ | ⟨rfl, rfl⟩
    · -- the subtree lies in an operand, one step further down
      rw [← List.singleton_append, map_below_append]
      exact ((ih c.1 (Expr.mem_operands_of_mem_children hc) hq).map _).trans
        (isInfix_validate_of_mem_children hc)
    · rw [map_below_nil]

/-- A subtree of a tree without errors has none either. -/
theorem hasErrors_validate_of_mem_nodes (hn : n ∈ e.nodes) (h : hasErrors (validate e) = false) :
    hasErrors (validate n) = false := by
  obtain ⟨p, hp⟩ := Expr.exists_mem_located hn
  rw [← hasErrors_map_below p]
  exact hasErrors_of_isInfix (isInfix_validate_of_mem_located hp) h

/-! ### Checkers -/

namespace Checker

/-- Steps that each add some issues add those of all, one after another. -/
theorem issues_foldl {α : Type} {add : Checker → α → Checker} {found : α → List Issue}
    {xs : List α} (h : ∀ x ∈ xs, ∀ c, (add c x).issues = c.issues ++ found x) (c : Checker) :
    (xs.foldl add c).issues = c.issues ++ xs.flatMap found := by
  induction xs generalizing c with
  | nil => simp
  | cons x xs ih =>
    rw [List.forall_mem_cons] at h
    rw [List.foldl_cons, ih h.2, h.1, List.flatMap_cons, List.append_assoc]

theorem issues_foldl_push (c : Checker) (is : List Issue) :
    (is.foldl push c).issues = c.issues ++ is := by
  have hpush : ∀ i ∈ is, ∀ c : Checker, (c.push i).issues = c.issues ++ [i] := fun _ _ _ => rfl
  rw [issues_foldl hpush, List.flatMap_singleton']

/-- A checker visits the operands of a node, and then it adds the own issues of the node. -/
theorem visit_eq (c : Checker) (path : Path) (e : Expr) :
    c.visit path e =
      (e.nodeIssues path).foldl push
        (e.children.foldl (fun c x => c.visit (path ++ [x.2]) x.1) c) := by
  rw [visit, visit.go, Expr.fold_eq, List.zip_map_left, List.foldl_map]
  rfl

/-- Whatever has been found before, a visit adds the issues of the tree below the path. -/
theorem issues_visit (c : Checker) (path : Path) (e : Expr) :
    (c.visit path e).issues = c.issues ++ (validate e).map (Issue.below path) := by
  induction e using Expr.operands_induction generalizing c path with
  | step e ih =>
    -- each operand has a path of its own, and is visited after the issues of those before it
    have hoperands : ∀ x ∈ e.children, ∀ c : Checker,
        (c.visit (path ++ [x.2]) x.1).issues =
          c.issues ++ (validate x.1).map (Issue.below (path ++ [x.2])) :=
      fun x hx c => ih x.1 (Expr.mem_operands_of_mem_children hx) c _
    rw [visit_eq, issues_foldl_push, issues_foldl hoperands, map_below_validate, List.append_assoc]

/-- A checker keeps what it has found, and adds the issues of the tree. -/
theorem issues_check (c : Checker) (e : Expr) : (c.check e).issues = c.issues ++ validate e := by
  rw [check, issues_visit, map_below_nil]

theorem issues_checkAs (c : Checker) (e : Expr) (required : Kind) :
    (c.checkAs e required).issues = c.issues ++ validateAs e required := by
  rw [checkAs, issues_foldl_push, issues_check, validateAs, List.append_assoc]

/-- The checker after one more expression, which may have to be of some kind. -/
def afterCheck (c : Checker) (checked : Expr × Option Kind) : Checker :=
  match checked.2 with
  | none => c.check checked.1
  | some required => c.checkAs checked.1 required

/-- The checker after some expressions, one after another. -/
def afterChecks (c : Checker) (checked : List (Expr × Option Kind)) : Checker :=
  checked.foldl afterCheck c

/-- With or without a required kind, a check adds its own report. -/
theorem issues_afterCheck (c : Checker) (checked : Expr × Option Kind) :
    (c.afterCheck checked).issues = c.issues ++ validateFor checked.1 checked.2 := by
  obtain ⟨e, required⟩ := checked
  cases required with
  | none => exact c.issues_check e
  | some required => exact c.issues_checkAs e required

/-- A sequence of checks adds the reports one after another. -/
theorem issues_afterChecks (c : Checker) (checked : List (Expr × Option Kind)) :
    (c.afterChecks checked).issues =
      c.issues ++ checked.flatMap fun x => validateFor x.1 x.2 :=
  issues_foldl (fun x _ c => c.issues_afterCheck x) c

end Checker

/-- The issues of a tree are those of its operands in their order, each with the path of the operand
in the place of the root, and then the own ones of the root. So a subtree of a tree without errors
has none either. Whatever a checker has been given, it keeps the issues that it has found, and adds
just those that validation finds in the next tree. -/
theorem issues_add_up :
    (∀ e : Expr, e.children.map Prod.fst = e.operands ∧
      validate e =
        e.children.flatMap (fun c => (validate c.1).map (Issue.below [c.2])) ++ e.nodeIssues []) ∧
    (∀ (path : Path) (i : Issue), ∃ rest, i.path.render = "root" ++ rest ∧
      (i.below path).path.render = path.render ++ rest) ∧
    (∀ e : Expr, hasErrors (validate e) = false → ∀ n ∈ e.nodes, hasErrors (validate n) = false) ∧
    ∀ checked : List (Expr × Option Kind),
      let c := Checker.empty.afterChecks checked
      c.issues = checked.flatMap (fun x => validateFor x.1 x.2) ∧
      ∀ e : Expr, (c.check e).issues = c.issues ++ validate e ∧
        ∀ required, (c.checkAs e required).issues = c.issues ++ validateAs e required := by
  refine ⟨fun e => ⟨e.map_fst_children, validate_eq e⟩, ?_, ?_, fun checked => ⟨?_, fun e => ?_⟩⟩
  · exact fun path i => path.exists_render_append i.path
  · exact fun e h n hn => hasErrors_validate_of_mem_nodes hn h
  · rw [Checker.issues_afterChecks]
    rfl
  · exact ⟨Checker.issues_check _ e, Checker.issues_checkAs _ e⟩

/-- A sum with a quotient in it, whose divisor is always zero, is checked after a negated text. The
warning of the quotient is one of the sum, one step further down, and comes after the error. -/
theorem issues_add_up_divisor_in_sum :
    let quotient := Expr.arithmetic .divide (.convert .wholeNumber (.attr "a") none)
      (.literal (.present (.wholeNumber .zero)))
    let sum := Expr.arithmetic .plus quotient (.literal (.present (.wholeNumber .zero)))
    let c := Checker.empty.afterChecks [(.unary .not (.attr "b"), some .boolean)]
    hasErrors (validate sum) = false ∧ quotient ∈ sum.nodes ∧
    hasErrors (validate quotient) = false ∧
    (validate quotient).map (·.path.render) = ["root.operand"] ∧
    (c.check sum).issues.map (fun i => (i.isError, i.path.render)) =
      [(true, "root.operand"), (false, "root.subject.operand")] := by
  intro quotient sum c
  obtain ⟨-, -, hsubtrees, hcheckers⟩ := issues_add_up
  have hsum : hasErrors (validate sum) = false := by decide
  have hquotient : quotient ∈ sum.nodes :=
    Expr.mem_nodes_of_mem_operands (.head _) (Expr.mem_nodes_self quotient)
  obtain ⟨hissues, hnext⟩ := hcheckers [(.unary .not (.attr "b"), some .boolean)]
  refine ⟨hsum, hquotient, hsubtrees sum hsum quotient hquotient, by decide, ?_⟩
  rw [(hnext sum).1, hissues]
  decide

end RecordExpr
