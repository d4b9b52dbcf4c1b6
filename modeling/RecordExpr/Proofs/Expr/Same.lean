import RecordExpr.Proofs.Decimal.Units
import RecordExpr.Proofs.Expr.Nodes

/-!
# Sameness of expressions

Two trees are the same if they have the same shape and the same operators, names and constants,
where decimals count as numbers (`Expr.same`). As numbers only the two zeros are equal and have
different bits, and only NaN is not equal to itself. So a tree is the same as no other one if no
decimal in it is a zero (`Expr.eq_of_same`), and it is the same as itself if none is NaN
(`Expr.same_self`).
-/

namespace RecordExpr

/-! ### Constants -/

namespace Decimal

variable {a b : Decimal}

/-- All decimals but NaN are ordered by their keys. -/
theorem compare?_eq_some_iff {o : Ordering} : compare? a b = some o ↔
    a.isNaN = false ∧ b.isNaN = false ∧ compare a.orderKey b.orderKey = o := by
  unfold compare?
  cases a.isNaN <;> cases b.isNaN <;> simp

theorem numEq_iff :
    a.numEq b = true ↔ a.isNaN = false ∧ b.isNaN = false ∧ a.orderKey = b.orderKey := by
  rw [numEq, beq_iff_eq, compare?_eq_some_iff, compare_eq_iff_eq]

theorem numEq_self (h : a.isNaN = false) : a.numEq a = true := numEq_iff.mpr ⟨h, h, rfl⟩

/-- Decimals that are equal as numbers are the same, unless they are zeros. -/
theorem eq_of_numEq (h : a.numEq b = true) (hz : a.isZero = false) : a = b := by
  obtain ⟨-, -, hkey⟩ := numEq_iff.mp h
  have hpos : a.magnitude ≠ 0 := by simpa [isZero] using hz
  -- keys of different signs are equal at zero only
  have hparts : a.isNegative = b.isNegative ∧ a.magnitude = b.magnitude := by
    revert hkey
    unfold orderKey
    cases a.isNegative <;> cases b.isNegative <;>
      simp only [Bool.false_eq_true, if_false, if_true, reduceCtorEq, true_and, false_and] <;> omega
  rw [← ofMagnitude_magnitude a, hparts.1, hparts.2, ofMagnitude_magnitude]

end Decimal

namespace Result

variable {r s : Result}

/-- A result is the same as itself unless it is NaN. -/
theorem same_self (h : ∀ d, r = .present (.decimal d) → d.isNaN = false) : r.same r = true := by
  cases r with
  | absent k => exact beq_self_eq_true k
  | present v =>
    cases v with
    | decimal d => exact Decimal.numEq_self (h d rfl)
    | string _ | boolean _ | wholeNumber _ | date _ => exact beq_self_eq_true _

/-- The same results are equal, if the two zeros are set aside. -/
theorem eq_of_same (h : r.same s = true) (hz : ∀ d, r = .present (.decimal d) → d.isZero = false) :
    r = s := by
  unfold same at h
  split at h
  · exact congrArg absent (eq_of_beq h)
  · next v w =>
    unfold Value.same at h
    split at h
    · next a b => rw [Decimal.eq_of_numEq h (hz a rfl)]
    · rw [eq_of_beq h]
  · cases h

end Result

/-! ### Trees -/

namespace Expr

variable {l r e : Expr} {xs ys : List Expr}

theorem eq_of_sameList (h : sameList xs ys = true)
    (ih : ∀ x ∈ xs, ∀ y, x.same y = true → x = y) : xs = ys := by
  induction xs generalizing ys with
  | nil =>
    cases ys with
    | nil => rfl
    | cons y ys => simp [sameList] at h
  | cons x xs ihxs =>
    cases ys with
    | nil => simp [sameList] at h
    | cons y ys =>
      rw [sameList, Bool.and_eq_true] at h
      rw [ih x (.head _) y h.1, ihxs h.2 fun x hx => ih x (.tail _ hx)]

theorem sameList_self (h : ∀ x ∈ xs, x.same x = true) : sameList xs xs = true := by
  induction xs with
  | nil => simp [sameList]
  | cons x xs ih =>
    rw [sameList, h x (.head _), ih fun y hy => h y (.tail _ hy), Bool.and_self]

/-- A tree without zeros is the same as no other one. -/
theorem eq_of_same (h : l.same r = true)
    (hz : ∀ d, literal (.present (.decimal d)) ∈ l.nodes → d.isZero = false) : l = r := by
  induction l using operands_induction generalizing r with
  | step l ih =>
    have hoperands : ∀ x ∈ l.operands, ∀ y, x.same y = true → x = y := fun x hx y hxy =>
      ih x hx hxy fun d hd => hz d (mem_nodes_of_mem_operands hx hd)
    -- all cases but the last have one constructor on both sides
    fun_cases same l r with
    | case1 r s =>
      rw [same] at h
      rw [Result.eq_of_same h fun d hd => hz d (hd ▸ mem_nodes_self _)]
    | case2 a b =>
      rw [same, beq_iff_eq] at h
      rw [h]
    | case3 => rfl
    | case4 k x f k' x' f' =>
      simp only [same, Bool.and_eq_true, beq_iff_eq] at h
      obtain ⟨⟨rfl, hx⟩, rfl⟩ := h
      rw [hoperands x (.head _) _ hx]
    | case5 op x op' x' =>
      simp only [same, Bool.and_eq_true, beq_iff_eq] at h
      obtain ⟨rfl, hx⟩ := h
      rw [hoperands x (.head _) _ hx]
    | case6 op x y op' x' y' | case7 op x y op' x' y' =>
      simp only [same, Bool.and_eq_true, beq_iff_eq] at h
      obtain ⟨⟨rfl, hx⟩, hy⟩ := h
      rw [hoperands x (.head _) _ hx, hoperands y (.tail _ (.head _)) _ hy]
    | case8 op xs op' xs' =>
      simp only [same, Bool.and_eq_true, beq_iff_eq] at h
      obtain ⟨rfl, hxs⟩ := h
      rw [eq_of_sameList hxs hoperands]
    | case9 c x y c' x' y' | case13 c x y c' x' y' =>
      simp only [same, Bool.and_eq_true] at h
      obtain ⟨⟨hc, hx⟩, hy⟩ := h
      rw [hoperands c (.head _) _ hc, hoperands x (.tail _ (.head _)) _ hx,
        hoperands y (.tail _ (.tail _ (.head _))) _ hy]
    | case10 x y x' y' | case12 x y x' y' =>
      simp only [same, Bool.and_eq_true] at h
      obtain ⟨hx, hy⟩ := h
      rw [hoperands x (.head _) _ hx, hoperands y (.tail _ (.head _)) _ hy]
    | case11 xs xs' =>
      rw [same] at h
      rw [eq_of_sameList h hoperands]
    | case14 op x s a op' x' s' a' =>
      simp only [same, Bool.and_eq_true, beq_iff_eq] at h
      obtain ⟨⟨⟨rfl, hx⟩, rfl⟩, ha⟩ := h
      rw [hoperands x (.head _) _ hx, hoperands a (.tail _ (.head _)) _ ha]
    | case15 x s a y x' s' a' y' =>
      simp only [same, Bool.and_eq_true, beq_iff_eq] at h
      obtain ⟨⟨⟨hx, rfl⟩, ha⟩, hy⟩ := h
      rw [hoperands x (.head _) _ hx, hoperands a (.tail _ (.head _)) _ ha,
        hoperands y (.tail _ (.tail _ (.head _))) _ hy]
    | case16 => simp [same] at h

/-- A tree without NaN is the same as itself. -/
theorem same_self (hn : ∀ d, literal (.present (.decimal d)) ∈ e.nodes → d.isNaN = false) :
    e.same e = true := by
  induction e using operands_induction with
  | step e ih =>
    have hoperands : ∀ x ∈ e.operands, x.same x = true := fun x hx =>
      ih x hx fun d hd => hn d (mem_nodes_of_mem_operands hx hd)
    cases e with
    | literal r =>
      rw [same]
      exact Result.same_self fun d hd => hn d (hd ▸ mem_nodes_self _)
    | logical op xs | concat xs =>
      rw [operands] at hoperands
      simp [same, sameList_self hoperands]
    | _ =>
      simp only [operands, List.forall_mem_cons] at hoperands
      simp [same, hoperands]

/-- Whether the decimals among the constants are neither NaN nor zero. Those in the sources of
patterns count as well. -/
def PlainDecimals (e : Expr) : Prop :=
  ∀ d, literal (.present (.decimal d)) ∈ e.nodes → d.isNaN = false ∧ d.isZero = false

/-- For literals with plain decimals, to be the same is to be equal. -/
theorem same_iff (h : l.PlainDecimals) : l.same r = true ↔ l = r := by
  constructor
  · exact fun hs => eq_of_same hs fun d hd => (h d hd).2
  · rintro rfl
    exact same_self fun d hd => (h d hd).1

end Expr

end RecordExpr
