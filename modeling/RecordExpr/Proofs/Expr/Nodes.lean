import RecordExpr.Eval

/-!
# The nodes of an expression

A statement about every expression is proved from the operands up (`operands_induction`). A
statement about the nodes of an expression concerns the expression itself and the nodes of its
operands (`mem_nodes_iff`), so what all nodes have is passed on to the operands
(`mem_nodes_of_mem_operands`).
-/

namespace RecordExpr.Expr

theorem sizeOf_lt_of_mem_operands {x e : Expr} (h : x ∈ e.operands) : sizeOf x < sizeOf e := by
  cases e with
  | literal _ | attr _ | now => cases h
  | convert _ _ _ | unary _ _ =>
    rw [operands, List.mem_singleton] at h
    subst h
    simp +arith
  | compare _ _ _ | arithmetic _ _ _ | replaceNull _ _ | substringFrom _ _ | test _ _ _ _ =>
    simp only [operands, List.mem_cons, List.not_mem_nil, or_false] at h
    rcases h with rfl | rfl <;> simp +arith
  | ifElse _ _ _ | substring _ _ _ | replace _ _ _ _ =>
    simp only [operands, List.mem_cons, List.not_mem_nil, or_false] at h
    rcases h with rfl | rfl | rfl <;> simp +arith
  | logical _ xs | concat xs =>
    have := List.sizeOf_lt_of_mem (show x ∈ xs from h)
    simp
    omega

/-- What holds of an expression whenever it holds of its operands holds of every expression. -/
theorem operands_induction {motive : Expr → Prop}
    (step : ∀ e, (∀ x ∈ e.operands, motive x) → motive e) (e : Expr) : motive e :=
  step e fun x hx =>
    have := sizeOf_lt_of_mem_operands hx
    operands_induction step x
termination_by sizeOf e

/-! ### Membership -/

/-- The nodes of a tree are the tree and the nodes of its operands. -/
theorem mem_nodes_iff {n e : Expr} : n ∈ e.nodes ↔ n = e ∨ ∃ x ∈ e.operands, n ∈ x.nodes := by
  rw [nodes_eq, List.mem_cons, List.mem_flatMap]

theorem mem_nodes_self (e : Expr) : e ∈ e.nodes := mem_nodes_iff.mpr (.inl rfl)

theorem mem_nodes_of_mem_operands {n x e : Expr} (hx : x ∈ e.operands) (hn : n ∈ x.nodes) :
    n ∈ e.nodes := mem_nodes_iff.mpr (.inr ⟨x, hx, hn⟩)

/-- Nodes of nodes are nodes. -/
theorem mem_nodes_trans {m n e : Expr} (hm : m ∈ n.nodes) (hn : n ∈ e.nodes) : m ∈ e.nodes := by
  induction e using operands_induction with
  | step e ih =>
    rcases mem_nodes_iff.mp hn with rfl | ⟨x, hx, hn⟩
    · exact hm
    · exact mem_nodes_of_mem_operands hx (ih x hx hn)

/-- A pattern is the argument of a test or of a replacement. -/
theorem pattern?_eq_some_iff {n source : Expr} {anchored : Bool} :
    n.pattern? = some (anchored, source) ↔
      (∃ op subject, n = test op subject (.pattern anchored) source) ∨
        ∃ subject replacement, n = replace subject (.pattern anchored) source replacement := by
  constructor
  · intro h
    unfold pattern? at h
    split at h
    · cases h
      exact .inl ⟨_, _, rfl⟩
    · cases h
      exact .inr ⟨_, _, rfl⟩
    · cases h
  · rintro (⟨op, subject, rfl⟩ | ⟨subject, replacement, rfl⟩) <;> rfl

theorem mem_operands_of_pattern? {n source : Expr} {anchored : Bool}
    (h : n.pattern? = some (anchored, source)) : source ∈ n.operands := by
  rcases pattern?_eq_some_iff.mp h with ⟨op, subject, rfl⟩ | ⟨subject, replacement, rfl⟩ <;>
    simp [operands]

/-! ### Constants -/

theorem readsContext_of_isConstant {n e : Expr} (h : e.isConstant) (hn : n ∈ e.nodes) :
    n.readsContext = false := by
  rw [isConstant, List.all_eq_true] at h
  simpa using h n hn

theorem readsDateFormat_of_usesDateFormat {n e : Expr} (h : e.usesDateFormat = false)
    (hn : n ∈ e.nodes) : n.readsDateFormat = false := by
  rw [usesDateFormat, List.any_eq_false] at h
  simpa using h n hn

/-- Everything in a constant is constant. -/
theorem isConstant_of_mem_nodes {n e : Expr} (h : e.isConstant) (hn : n ∈ e.nodes) :
    n.isConstant := by
  rw [isConstant, List.all_eq_true] at h ⊢
  exact fun m hm => h m (mem_nodes_trans hm hn)

theorem isFixed_of_mem_nodes {n e : Expr} (h : e.isFixed) (hn : n ∈ e.nodes) : n.isFixed := by
  rw [isFixed, Bool.and_eq_true, Bool.not_eq_true'] at h ⊢
  constructor
  · exact isConstant_of_mem_nodes h.1 hn
  · rw [usesDateFormat, List.any_eq_false]
    intro m hm
    rw [readsDateFormat_of_usesDateFormat h.2 (mem_nodes_trans hm hn)]
    exact Bool.false_ne_true

end RecordExpr.Expr
