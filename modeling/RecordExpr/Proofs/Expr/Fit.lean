import RecordExpr.Expr.Signature

/-!
# Nodes with operands that fit

A node fits if every slot of its signature accepts the kind of its operand. The signature names
kinds in lists, while operators know kinds by matching on them; the equivalences `fits_…` say of
each operator what its slots ask for, in the terms of its evaluation. In particular the slots of a
comparison and of arithmetic accept just the kinds that have a domain (`fits_compare`,
`fits_arithmetic`).
-/

namespace RecordExpr.Expr

/-- The slots of a node accept its operands. -/
def Fits (e : Expr) : Prop := ∀ p ∈ e.slots.zip e.operands, p.1.accepts p.2.kind

/-- A string test looks for what its operator takes: a pattern or a text. -/
def SearchFits : Expr → Prop
  | test op _ .text _ => op.usesPattern = false
  | test op _ (.pattern _) _ => op.usesPattern = true
  | _ => True

@[simp] theorem fits_convert {target : Kind} {x : Expr} {format : Option String} :
    (convert target x format).Fits ↔ x.kind ∈ target.conversionSources := by
  simp [Fits, slots, operands, Slot.accepts]

@[simp] theorem fits_unary {op : Unary} {x : Expr} :
    (unary op x).Fits ↔ x.kind ∈ op.operandKinds := by
  simp [Fits, slots, operands, Slot.accepts]

@[simp] theorem fits_compare {op : Comparison} {x y : Expr} :
    (compare op x y).Fits ↔ op.domain? x.kind y.kind ≠ none := by
  simp only [Fits, slots, operands, Slot.accepts, List.zip_cons_cons, List.zip_nil_right,
    List.forall_mem_cons, List.contains_iff_mem, List.not_mem_nil, false_implies, implies_true,
    and_true]
  generalize x.kind = k
  generalize y.kind = l
  cases op <;> cases k <;> cases l <;> decide

@[simp] theorem fits_arithmetic {op : Arithmetic} {x y : Expr} :
    (arithmetic op x y).Fits ↔ op.domain? x.kind y.kind ≠ none := by
  simp only [Fits, slots, operands, Slot.accepts, List.zip_cons_cons, List.zip_nil_right,
    List.forall_mem_cons, List.contains_iff_mem, List.not_mem_nil, false_implies, implies_true,
    and_true]
  generalize x.kind = k
  generalize y.kind = l
  cases op <;> cases k <;> cases l <;> decide

@[simp] theorem fits_logical {op : Connective} {xs : List Expr} :
    (logical op xs).Fits ↔ ∀ x ∈ xs, x.kind = .boolean := by
  rw [Fits, slots, operands]
  induction xs with
  | nil => simp
  | cons x xs ih =>
    rw [List.map_cons, List.zip_cons_cons, List.forall_mem_cons, List.forall_mem_cons, ih]
    simp [Slot.accepts]

@[simp] theorem fits_ifElse {c x y : Expr} :
    (ifElse c x y).Fits ↔ c.kind = .boolean ∧ y.kind = x.kind := by
  simp [Fits, slots, operands, Slot.accepts, Kind.mem_all]

@[simp] theorem fits_replaceNull {x y : Expr} : (replaceNull x y).Fits ↔ y.kind = x.kind := by
  simp [Fits, slots, operands, Slot.accepts, Kind.mem_all]

@[simp] theorem fits_concat {xs : List Expr} : (concat xs).Fits := by
  rw [Fits, slots, operands]
  induction xs with
  | nil => simp
  | cons x xs ih =>
    rw [List.map_cons, List.zip_cons_cons, List.forall_mem_cons]
    exact ⟨by simp [Slot.accepts, Kind.mem_all], ih⟩

@[simp] theorem fits_substringFrom {x i : Expr} :
    (substringFrom x i).Fits ↔ x.kind = .string ∧ i.kind = .wholeNumber := by
  simp [Fits, slots, operands, Slot.accepts]

@[simp] theorem fits_substring {x i j : Expr} :
    (substring x i j).Fits ↔ x.kind = .string ∧ i.kind = .wholeNumber ∧ j.kind = .wholeNumber := by
  simp [Fits, slots, operands, Slot.accepts]

@[simp] theorem fits_test {op : StringTest} {x y : Expr} {search : Search} :
    (test op x search y).Fits ↔ x.kind = .string ∧ y.kind = .string := by
  simp [Fits, slots, operands, Slot.accepts]

@[simp] theorem fits_replace {x y z : Expr} {search : Search} :
    (replace x search y z).Fits ↔ x.kind = .string ∧ y.kind = .string ∧ z.kind = .string := by
  simp [Fits, slots, operands, Slot.accepts]

end RecordExpr.Expr
