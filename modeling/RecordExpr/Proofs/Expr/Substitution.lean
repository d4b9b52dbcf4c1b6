import RecordExpr.Proofs.Expr.Nodes

/-!
# Substitution

Some nodes of a tree, together with all that is below them, give way to another tree
(`Expr.substitute`). If that has their kind, every node keeps the kind that it declares and the
error that it has for operands that do not fit (`kind_substitute`, `mismatch_withOperands`). If it
is no constant either, no pattern comes to belong to the expression that did not before
(`fixedPattern?_substitute`).
-/

namespace RecordExpr.Expr

variable {p : Expr → Bool} {g : Expr → Expr} {e new source : Expr} {anchored : Bool}

/-- A node with other operands, as many as it has. -/
def withOperands : Expr → List Expr → Expr
  | convert target _ format, [x] => convert target x format
  | unary op _, [x] => unary op x
  | compare op _ _, [x, y] => compare op x y
  | arithmetic op _ _, [x, y] => arithmetic op x y
  | logical op _, xs => logical op xs
  | ifElse _ _ _, [c, x, y] => ifElse c x y
  | replaceNull _ _, [x, y] => replaceNull x y
  | concat _, xs => concat xs
  | substringFrom _ _, [x, i] => substringFrom x i
  | substring _ _ _, [x, i, j] => substring x i j
  | test op _ search _, [x, y] => test op x search y
  | replace _ search _ _, [x, y, z] => replace x search y z
  | e, _ => e

/-- The tree with another one in the place of each node that `p` picks. -/
def substitute (e : Expr) (p : Expr → Bool) (new : Expr) : Expr :=
  e.fold fun n below => if p n then new else n.withOperands below

theorem substitute_of_pick (h : p e = true) : e.substitute p new = new := by
  rw [substitute, fold_eq, if_pos h]

/-- A node that is not replaced keeps its operator, with its operands after the replacement. -/
theorem substitute_of_not_pick (h : ¬p e = true) :
    e.substitute p new = e.withOperands (e.operands.map (·.substitute p new)) := by
  rw [substitute, fold_eq, if_neg h]
  rfl

/-! ### Other operands -/

@[simp] theorem withOperands_operands (e : Expr) : e.withOperands e.operands = e := by
  cases e <;> rfl

theorem operands_withOperands (g : Expr → Expr) (e : Expr) :
    (e.withOperands (e.operands.map g)).operands = e.operands.map g := by
  cases e <;> rfl

theorem kind_withOperands (hg : ∀ x ∈ e.operands, (g x).kind = x.kind) :
    (e.withOperands (e.operands.map g)).kind = e.kind := by
  cases e <;> simp_all [operands, withOperands, kind]

theorem mismatch_withOperands (hg : ∀ x ∈ e.operands, (g x).kind = x.kind) :
    (e.withOperands (e.operands.map g)).mismatch = e.mismatch := by
  have hkinds : (e.operands.map g).map kind = e.operands.map kind := by
    rw [List.map_map]
    exact List.map_congr_left hg
  have hsignature : (e.withOperands (e.operands.map g)).operator = e.operator ∧
      (e.withOperands (e.operands.map g)).slots = e.slots := by
    cases e with
    | logical _ _ | concat _ => exact ⟨rfl, List.map_map⟩
    | replace x search y z => cases search <;> simp_all [operands, withOperands, operator, slots]
    | _ => simp_all [operands, withOperands, operator, slots]
  rw [mismatch, hsignature.1, hsignature.2, operands_withOperands, hkinds, mismatch]

/-! ### Substitution -/

/-- A replacement of its own kind leaves all kinds as they are. -/
theorem kind_substitute (hp : ∀ e, p e = true → e.kind = new.kind) (e : Expr) :
    (e.substitute p new).kind = e.kind := by
  induction e using operands_induction with
  | step e ih =>
    by_cases h : p e = true
    · rw [substitute_of_pick h, hp e h]
    · rw [substitute_of_not_pick h, kind_withOperands ih]

/-- Where nothing is picked, nothing changes. -/
theorem substitute_eq_self (h : ∀ n ∈ e.nodes, ¬p n = true) : e.substitute p new = e := by
  induction e using operands_induction with
  | step e ih =>
    have hsame : e.operands.map (·.substitute p new) = e.operands := by
      refine (List.map_congr_left fun x hx => ?_).trans (List.map_id _)
      exact ih x hx fun n hn => h n (mem_nodes_of_mem_operands hx hn)
    rw [substitute_of_not_pick (h e (mem_nodes_self e)), hsame, withOperands_operands]

/-- A tree with a replacement that is not constant is not constant either. -/
theorem isConstant_substitute (hnew : new.isConstant = false) (h : ∃ n ∈ e.nodes, p n = true) :
    (e.substitute p new).isConstant = false := by
  induction e using operands_induction with
  | step e ih =>
    by_cases hpick : p e = true
    · rw [substitute_of_pick hpick, hnew]
    · obtain ⟨n, hn, hp⟩ := h
      rcases mem_nodes_iff.mp hn with rfl | ⟨x, hx, hn⟩
      · exact absurd hp hpick
      · have hmem : x.substitute p new ∈ (e.substitute p new).operands := by
          rw [substitute_of_not_pick hpick, operands_withOperands]
          exact List.mem_map.mpr ⟨x, hx, rfl⟩
        rw [← Bool.not_eq_true]
        intro hconstant
        have hbelow : (x.substitute p new).isConstant = true :=
          isConstant_of_mem_nodes hconstant (mem_nodes_of_mem_operands hmem (mem_nodes_self _))
        cases hbelow.symm.trans (ih x hx ⟨n, hn, hp⟩)

theorem fixedPattern?_of_not_isConstant (h : source.isConstant = false) :
    source.fixedPattern? anchored = none := by
  rw [fixedPattern?, isFixed, h]
  rfl

/-- No pattern is made in advance for the sake of a substitution. -/
theorem fixedPattern?_substitute (hp : ∀ e, p e = true → e.isConstant = false)
    (hnew : new.isConstant = false) :
    (source.substitute p new).fixedPattern? anchored = source.fixedPattern? anchored := by
  by_cases h : ∃ n ∈ source.nodes, p n = true
  · -- the source is no constant, before or after
    have hsource : source.isConstant = false := by
      obtain ⟨n, hn, hpick⟩ := h
      rw [← Bool.not_eq_true]
      intro hconstant
      cases (isConstant_of_mem_nodes hconstant hn).symm.trans (hp n hpick)
    rw [fixedPattern?_of_not_isConstant hsource,
      fixedPattern?_of_not_isConstant (isConstant_substitute hnew h)]
  · rw [substitute_eq_self fun n hn hpick => h ⟨n, hn, hpick⟩]

/-! ### Attributes -/

/-- The attribute is named by operands of nodes that `p` picks, and nowhere else. -/
structure NamedOnlyIn (name : String) (p : Expr → Bool) (e : Expr) : Prop where
  root : e ≠ attr name
  operand : ∀ n ∈ e.nodes, attr name ∈ n.operands → p n = true

theorem NamedOnlyIn.of_mem_operands {name : String} {x : Expr} (h : e.NamedOnlyIn name p)
    (hpick : ¬p e = true) (hx : x ∈ e.operands) : x.NamedOnlyIn name p := by
  constructor
  · rintro rfl
    exact hpick (h.operand e (mem_nodes_self e) hx)
  · exact fun n hn => h.operand n (mem_nodes_of_mem_operands hx hn)

end RecordExpr.Expr
