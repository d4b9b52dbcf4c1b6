import RecordExpr.Prepared.Validation
import RecordExpr.Proofs.Eval.Steps
import RecordExpr.Proofs.Expr.Located

/-!
# Prepared expressions that were built

A tree is built from the leaves up, and every pattern in it is made when its node is built
(`Prepared.Built`). What is made then depends on what the source of the pattern holds itself, since
the source is evaluated. In the end it follows from the source as an expression and from whether the
pattern is anchored (`Prepared.Built.made?_eq`): by induction the evaluation of a built tree is that
of its expression (`Prepared.eval_of_built`), and the sources of patterns are built trees as well.
The same holds of validation, which reads what the nodes hold too (`Prepared.validate_of_built`).

Every expression can be built (`Expr.built_prepare`), so that nothing is lost.
-/

namespace RecordExpr

namespace Prepared

/-- The trees that can be built. Patterns come from `Sought.ofSource`. -/
inductive Built : Prepared → Prop
  | literal (r : Result) : Built (.literal r)
  | attr (name : String) : Built (.attr name)
  | now : Built .now
  | convert {x : Prepared} (target : Kind) (format : Option String) (hx : Built x) :
    Built (.convert target x format)
  | unary {x : Prepared} (op : Unary) (hx : Built x) : Built (.unary op x)
  | compare {x y : Prepared} (op : Comparison) (hx : Built x) (hy : Built y) :
    Built (.compare op x y)
  | arithmetic {x y : Prepared} (op : Arithmetic) (hx : Built x) (hy : Built y) :
    Built (.arithmetic op x y)
  | logical {xs : List Prepared} (op : Connective) (hxs : ∀ x ∈ xs, Built x) :
    Built (.logical op xs)
  | ifElse {c x y : Prepared} (hc : Built c) (hx : Built x) (hy : Built y) :
    Built (.ifElse c x y)
  | replaceNull {x y : Prepared} (hx : Built x) (hy : Built y) : Built (.replaceNull x y)
  | concat {xs : List Prepared} (hxs : ∀ x ∈ xs, Built x) : Built (.concat xs)
  | substringFrom {x i : Prepared} (hx : Built x) (hi : Built i) : Built (.substringFrom x i)
  | substring {x i j : Prepared} (hx : Built x) (hi : Built i) (hj : Built j) :
    Built (.substring x i j)
  | testText {x y : Prepared} (op : StringTest) (hx : Built x) (hy : Built y) :
    Built (.test op x .text y)
  | testPattern {x y : Prepared} (op : StringTest) (anchored : Bool) (hx : Built x)
    (hy : Built y) : Built (.test op x (.ofSource y anchored) y)
  | replaceText {x y z : Prepared} (hx : Built x) (hy : Built y) (hz : Built z) :
    Built (.replace x .text y z)
  | replacePattern {x y z : Prepared} (anchored : Bool) (hx : Built x) (hy : Built y)
    (hz : Built z) : Built (.replace x (.ofSource y anchored) y z)

variable {p x : Prepared} {xs : List Prepared} {env : Environment}

/-! ### Evaluation -/

/-- What is made of a pattern follows from its source as an expression, if the source is evaluated
like that. -/
theorem ofSource_eq (h : x.eval .constant = RecordExpr.eval .constant x.expr) (anchored : Bool) :
    Sought.ofSource x anchored = .pattern anchored (x.expr.fixedPattern? anchored) := by
  rw [Sought.ofSource, h, Expr.fixedPattern?]

theorem evalLogical_eq (h : ∀ x ∈ xs, ∀ env, x.eval env = RecordExpr.eval env x.expr)
    (mismatch : EvalError) (op : Connective) :
    evalLogical env mismatch op xs = RecordExpr.evalLogical env mismatch op (exprs xs) := by
  induction xs with
  | nil => rw [evalLogical, exprs, RecordExpr.evalLogical]
  | cons x xs ih =>
    rw [evalLogical, exprs, evalLogical_cons, conditionOf, h x (.head _),
      ih fun y hy => h y (.tail _ hy), bind_assoc]
    rfl

theorem evalConcat_eq (h : ∀ x ∈ xs, ∀ env, x.eval env = RecordExpr.eval env x.expr) :
    evalConcat env xs = RecordExpr.evalConcat env (exprs xs) := by
  induction xs with
  | nil => rw [evalConcat, exprs, RecordExpr.evalConcat]
  | cons x xs ih =>
    rw [evalConcat, exprs, evalConcat_cons, valueOf, h x (.head _),
      ih fun y hy => h y (.tail _ hy), bind_assoc]
    refine bind_congr fun r => ?_
    cases r <;> rfl

/-- A built tree is evaluated like its expression, although its patterns are made in advance. -/
theorem eval_of_built (h : p.Built) (env : Environment) :
    p.eval env = RecordExpr.eval env p.expr := by
  induction h generalizing env with
  | literal r => rw [eval, expr, RecordExpr.eval]
  | attr name => rw [eval, expr, eval_attr]
  | now => rw [eval, expr, eval_now]
  | convert target format _ ihx => simp only [eval, expr, eval_convert, valueOf, ihx]
  | unary op _ ihx => simp only [eval, expr, eval_unary, ihx]
  | compare op _ _ ihx ihy => simp only [eval, expr, eval_compare, valueOf, ihx, ihy]
  | arithmetic op _ _ ihx ihy =>
    simp only [eval, expr, eval_arithmetic, valueOf, ihx, ihy, bind_assoc]
    rfl
  -- the operands of a list are in the induction hypothesis one by one
  | logical op _ ih =>
    simp only [eval, expr, eval_logical, evalLogical_eq ih]
    rfl
  | ifElse _ _ _ ihc ihx ihy =>
    simp only [eval, expr, eval_ifElse, conditionOf, branchOf, ihc, ihx, ihy, bind_assoc]
    refine bind_congr fun r => bind_congr fun b => ?_
    cases b <;> rfl
  | replaceNull _ _ ihx ihy =>
    simp only [eval, expr, eval_replaceNull, branchOf, ihx, ihy]
    rfl
  | concat _ ih => simp only [eval, expr, eval_concat, evalConcat_eq ih]
  | substringFrom _ _ ihx ihi =>
    simp only [eval, expr, eval_substringFrom, textOf, placeOf, ihx, ihi]
  | substring _ _ _ ihx ihi ihj =>
    simp only [eval, expr, eval_substring, textOf, placeOf, ihx, ihi, ihj]
  | testText op _ _ ihx ihy =>
    simp only [expr, Sought.search, eval_test_text, textOf, ← ihx, ← ihy]
    rfl
  | testPattern op anchored _ _ ihx ihy =>
    -- what was made in advance is what the source gives without a record
    simp only [ofSource_eq (ihy _), eval, expr, Sought.search, eval_test_pattern, textOf,
      patternOf, ihx, ihy]
    rfl
  | replaceText _ _ _ ihx ihy ihz =>
    simp only [eval, expr, Sought.search, eval_replace_text, textOf, ihx, ihy, ihz]
  | replacePattern anchored _ _ _ ihx ihy ihz =>
    simp only [ofSource_eq (ihy _), eval, expr, Sought.search, eval_replace_pattern, textOf,
      patternOf, ihx, ihy, ihz]
    rfl

/-! ### Nodes -/

/-- All parts of a built tree are built. -/
theorem Built.of_mem_operands (h : p.Built) (hx : x ∈ p.operands) : x.Built := by
  cases h with
  | literal _ | attr _ | now => cases hx
  | logical _ hxs | concat hxs => exact hxs x hx
  | _ =>
    simp only [operands, List.mem_cons, List.not_mem_nil, or_false] at hx
    rcases hx with rfl | rfl | rfl <;> assumption

/-- What a node of a built tree holds follows from the source of its pattern and from whether the
pattern is anchored. -/
theorem Built.made?_eq (h : p.Built) :
    p.made? = p.expr.pattern?.bind fun (anchored, source) => source.fixedPattern? anchored := by
  cases h with
  | testPattern op anchored _ hy | replacePattern anchored _ hy _ =>
    rw [ofSource_eq (eval_of_built hy _)]
    rfl
  | _ => rfl

/-! ### Validation -/

theorem Built.nodeIssues_eq (h : p.Built) (path : Path) :
    p.nodeIssues path = p.expr.nodeIssues path := by
  rw [nodeIssues, Expr.nodeIssues, Expr.patternIssues, h.made?_eq]
  cases p.expr.pattern? <;> rfl

/-- The issues below a path, without the proofs that operands are smaller. -/
theorem issuesBelow_eq (path : Path) (p : Prepared) :
    p.issuesBelow path =
      (p.operands.zip p.expr.steps).flatMap (fun c => c.1.issuesBelow (path ++ [c.2])) ++
        p.nodeIssues path := by
  rw [issuesBelow]
  conv => rhs; rw [← List.attach_map_subtype_val p.operands, List.zip_map_left, List.flatMap_map]
  rfl

/-- What holds of a tree whenever it holds of its operands holds of every tree. -/
theorem operands_induction {motive : Prepared → Prop}
    (step : ∀ p, (∀ x ∈ p.operands, motive x) → motive p) (p : Prepared) : motive p :=
  step p fun x hx =>
    have := sizeOf_lt_of_mem_operands hx
    operands_induction step x
termination_by sizeOf p

/-- What is stored in a built tree is what validation would compute. -/
theorem issuesBelow_of_built (h : p.Built) (path : Path) :
    p.issuesBelow path = (p.expr.locatedFrom path).flatMap fun l => l.2.nodeIssues l.1 := by
  induction p using operands_induction generalizing path with
  | step p ih =>
    rw [issuesBelow_eq, Expr.locatedFrom_eq, List.flatMap_append, List.flatMap_singleton,
      h.nodeIssues_eq, Expr.children, operands_expr, List.zip_map_left, List.flatMap_map,
      List.flatMap_assoc]
    refine congrArg (· ++ _) (List.flatMap_congr fun c hc => ?_)
    have hx : c.1 ∈ p.operands := (List.of_mem_zip hc).1
    exact ih c.1 hx (h.of_mem_operands hx) _

/-- A built tree has the issues of its expression. -/
theorem validate_of_built (h : p.Built) : p.validate = RecordExpr.validate p.expr :=
  issuesBelow_of_built h []

/-- The same with a required kind. -/
theorem validateFor_of_built (h : p.Built) (required : Option Kind) :
    p.validateFor required = RecordExpr.validateFor p.expr required := by
  cases required with
  | none => exact validate_of_built h
  | some k => rw [validateFor, validate_of_built h, RecordExpr.validateFor, validateAs]

end Prepared

/-! ### Preparing -/

theorem Search.search_prepare (search : Search) (argument : Prepared) :
    (search.prepare argument).search = search := by cases search <;> rfl

namespace Expr

variable {e : Expr}

/-- Preparing adds to an expression and changes nothing of it. -/
theorem expr_prepare (e : Expr) : e.prepare.expr = e := by
  induction e using operands_induction with
  | step e ih =>
    cases e with
    | literal _ | attr _ | now => rfl
    | logical _ xs | concat xs =>
      have hxs : xs.map (Prepared.expr ∘ prepare) = xs := List.map_congr_left ih |>.trans xs.map_id
      rw [prepare, Prepared.expr, prepareAll_eq_map, Prepared.exprs_eq_map, List.map_map, hxs]
    | _ =>
      simp only [operands, List.forall_mem_cons] at ih
      simp only [prepare, Prepared.expr, Search.search_prepare, ih]

/-- Preparing a tree builds it. -/
theorem built_prepare (e : Expr) : e.prepare.Built := by
  induction e using operands_induction with
  | step e ih =>
    cases e with
    | literal r => exact .literal r
    | attr name => exact .attr name
    | now => exact .now
    | convert target x format => exact .convert target format (ih x (.head _))
    | unary op x => exact .unary op (ih x (.head _))
    | compare op x y => exact .compare op (ih x (.head _)) (ih y (.tail _ (.head _)))
    | arithmetic op x y => exact .arithmetic op (ih x (.head _)) (ih y (.tail _ (.head _)))
    | logical op xs =>
      rw [prepare, prepareAll_eq_map]
      exact .logical op (List.forall_mem_map.mpr ih)
    | ifElse c x y =>
      exact .ifElse (ih c (.head _)) (ih x (.tail _ (.head _)))
        (ih y (.tail _ (.tail _ (.head _))))
    | replaceNull x y => exact .replaceNull (ih x (.head _)) (ih y (.tail _ (.head _)))
    | concat xs =>
      rw [prepare, prepareAll_eq_map]
      exact .concat (List.forall_mem_map.mpr ih)
    | substringFrom x i => exact .substringFrom (ih x (.head _)) (ih i (.tail _ (.head _)))
    | substring x i j =>
      exact .substring (ih x (.head _)) (ih i (.tail _ (.head _)))
        (ih j (.tail _ (.tail _ (.head _))))
    | test op x search y =>
      have hx := ih x (.head _)
      have hy := ih y (.tail _ (.head _))
      cases search with
      | text => exact .testText op hx hy
      | pattern anchored => exact .testPattern op anchored hx hy
    | replace x search y z =>
      have hx := ih x (.head _)
      have hy := ih y (.tail _ (.head _))
      have hz := ih z (.tail _ (.tail _ (.head _)))
      cases search with
      | text => exact .replaceText hx hy hz
      | pattern anchored => exact .replacePattern anchored hx hy hz

/-- Patterns that are made in advance show in no result. -/
theorem eval_prepare (e : Expr) (env : Environment) : e.prepare.eval env = eval env e := by
  rw [Prepared.eval_of_built e.built_prepare, expr_prepare]

/-- Preparing a tree does not change its report. -/
theorem validateFor_prepare (e : Expr) (required : Option Kind) :
    e.prepare.validateFor required = validateFor e required := by
  rw [Prepared.validateFor_of_built e.built_prepare, expr_prepare]

end Expr

end RecordExpr
