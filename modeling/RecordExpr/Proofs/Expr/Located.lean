import Mathlib.Data.List.Nodup
import Mathlib.Data.List.Perm.Basic
import RecordExpr.Proofs.Expr.Nodes
import RecordExpr.Proofs.Expr.Paths

/-!
# The nodes of a tree with their paths

There is a step to every operand of a node (`length_steps`), and no two operands are reached by the
same step. So the walk through a tree that notes the paths comes to every node once (`perm_nodes`)
and to no two nodes by the same path (`nodup_paths`). The paths below a node are its own path with
those from it behind (`locatedFrom_eq_map`).

Every node but the root is an operand of one other node, which has one slot for it (`OperandAt`).
-/

namespace RecordExpr

namespace Expr

variable {e n x : Expr} {p q : Path} {s : Step}

/-! ### Steps to operands -/

theorem length_stepsFrom (before roles : List Role) :
    (stepsFrom before roles).length = roles.length := by
  induction roles generalizing before with
  | nil => rfl
  | cons r rs ih => rw [stepsFrom, List.length_cons, ih, List.length_cons]

/-- There is a step to every operand. -/
theorem length_steps (e : Expr) : e.steps.length = e.operands.length := by
  rw [steps, length_stepsFrom, List.length_map, length_slots]

/-- The operands of a node with the steps to them. -/
def children (e : Expr) : List (Expr × Step) := e.operands.zip e.steps

theorem mem_operands_of_mem_children {c : Expr × Step} (h : c ∈ e.children) : c.1 ∈ e.operands :=
  (List.of_mem_zip h).1

theorem map_fst_children (e : Expr) : e.children.map Prod.fst = e.operands :=
  List.map_fst_zip (Nat.le_of_eq e.length_steps.symm)

theorem map_snd_children (e : Expr) : e.children.map Prod.snd = e.steps :=
  List.map_snd_zip (Nat.le_of_eq e.length_steps)

/-! ### The walk through a tree -/

/-- The nodes below each child come first, and the node itself last. -/
theorem locatedFrom_eq (path : Path) (e : Expr) :
    e.locatedFrom path =
      e.children.flatMap (fun c => c.1.locatedFrom (path ++ [c.2])) ++ [(path, e)] := by
  rw [locatedFrom, locatedFrom.go, fold_eq, List.zipWith_map_left,
    ← List.map_uncurry_zip_eq_zipWith, List.flatMap_def]
  rfl

/-- Below a path the nodes have their own paths behind it. -/
theorem locatedFrom_eq_map (path : Path) (e : Expr) :
    e.locatedFrom path = e.located.map fun l => (path ++ l.1, l.2) := by
  induction e using operands_induction generalizing path with
  | step e ih =>
    rw [located, locatedFrom_eq, locatedFrom_eq, List.map_append, List.map_flatMap]
    refine congrArg₂ (· ++ ·) (List.flatMap_congr fun c hc => ?_) (by simp)
    -- an operand has a path of its own on both sides, so the path is general in the induction
    have hx := mem_operands_of_mem_children hc
    rw [ih c.1 hx, ih c.1 hx, List.map_map]
    refine List.map_congr_left fun l _ => ?_
    simp

/-- The nodes of a tree are those of its operands, each one step further on, and the node itself. -/
theorem located_eq (e : Expr) :
    e.located = e.children.flatMap (fun c => c.1.located.map fun l => (c.2 :: l.1, l.2)) ++
      [([], e)] := by
  rw [located, locatedFrom_eq]
  simp only [List.nil_append, locatedFrom_eq_map [_], List.singleton_append]

theorem mem_located_self (e : Expr) : ([], e) ∈ e.located := by
  rw [located_eq]
  exact List.mem_append_right _ (List.mem_singleton_self _)

/-- A node is the root or stands below one of its children. -/
theorem mem_located_iff : (p, x) ∈ e.located ↔
    (∃ c ∈ e.children, ∃ q, (q, x) ∈ c.1.located ∧ p = c.2 :: q) ∨ p = [] ∧ x = e := by
  rw [located_eq]
  simp only [List.mem_append, List.mem_flatMap, List.mem_map, Prod.mk.injEq, List.mem_singleton]
  constructor
  · rintro (⟨c, hc, ⟨q, y⟩, hy, rfl, rfl⟩ | h)
    · exact .inl ⟨c, hc, q, hy, rfl⟩
    · exact .inr h
  · rintro (⟨c, hc, q, hq, rfl⟩ | h)
    · exact .inl ⟨c, hc, (q, x), hq, rfl, rfl⟩
    · exact .inr h

/-- Every node is located once. -/
theorem perm_nodes (e : Expr) : (e.located.map Prod.snd).Perm e.nodes := by
  induction e using operands_induction with
  | step e ih =>
    have hoperands : e.operands.flatMap nodes = e.children.flatMap fun c => c.1.nodes := by
      rw [← map_fst_children, List.flatMap_map]
    rw [located_eq, nodes_eq, hoperands, List.map_append, List.map_flatMap, List.map_singleton]
    refine (List.perm_append_singleton _ _).trans (.cons e (.flatMap_left _ fun c hc => ?_))
    rw [List.map_map]
    exact ih c.1 (mem_operands_of_mem_children hc)

/-- Every node of a tree stands somewhere. -/
theorem exists_mem_located (h : n ∈ e.nodes) : ∃ p, (p, n) ∈ e.located := by
  obtain ⟨⟨p, m⟩, hm, rfl⟩ := List.mem_map.mp (e.perm_nodes.mem_iff.mpr h)
  exact ⟨p, hm⟩

/-- No two nodes have the same path. -/
theorem nodup_paths (e : Expr) : (e.located.map Prod.fst).Nodup := by
  induction e using operands_induction with
  | step e ih =>
    rw [located_eq, List.map_append, List.map_flatMap, List.map_singleton, List.nodup_append,
      List.nodup_flatMap]
    refine ⟨⟨fun c hc => ?_, ?_⟩, List.nodup_singleton _, ?_⟩
    · have hcons : (c.1.located.map fun l => (c.2 :: l.1, l.2)).map Prod.fst =
          (c.1.located.map Prod.fst).map (c.2 :: ·) := by
        rw [List.map_map, List.map_map]
        rfl
      rw [hcons]
      exact (ih c.1 (mem_operands_of_mem_children hc)).map (List.cons_injective)
    · -- paths to nodes of different operands begin with different steps
      have hsteps : e.children.Pairwise fun c d => c.2 ≠ d.2 := by
        rw [← List.pairwise_map, map_snd_children]
        exact e.nodup_steps
      refine hsteps.imp fun {c d} hne => ?_
      simp only [Function.onFun, List.map_map, List.disjoint_left, List.mem_map]
      rintro _ ⟨l, -, rfl⟩ ⟨m, -, h⟩
      exact hne (List.head_eq_of_cons_eq h).symm
    · -- the path of the node itself is empty
      simp only [List.mem_flatMap, List.mem_map, List.mem_singleton]
      rintro _ ⟨c, -, _, ⟨l, -, rfl⟩, rfl⟩ _ rfl
      exact List.cons_ne_nil _ _

/-- A path leads to one node. -/
theorem eq_of_mem_located {y : Expr} (hx : (p, x) ∈ e.located) (hy : (p, y) ∈ e.located) :
    x = y :=
  congrArg Prod.snd (List.inj_on_of_nodup_map e.nodup_paths hx hy rfl)

/-! ### Operands and the nodes above them -/

/-- The path of a child is that of its parent with its own step added. -/
theorem mem_located_of_mem_children {c : Expr × Step} (hn : (p, n) ∈ e.located)
    (hc : c ∈ n.children) : (p ++ [c.2], c.1) ∈ e.located := by
  induction e using operands_induction generalizing p with
  | step e ih =>
    rcases mem_located_iff.mp hn with ⟨d, hd, q, hq, rfl⟩ | ⟨rfl, rfl⟩
    · exact mem_located_iff.mpr
        (.inl ⟨d, hd, _, ih d.1 (mem_operands_of_mem_children hd) hq, rfl⟩)
    · exact mem_located_iff.mpr (.inl ⟨c, hc, [], mem_located_self c.1, rfl⟩)

/-- Every node but the root is an operand of another node. -/
theorem exists_parent (hx : (p, x) ∈ e.located) (hp : p ≠ []) :
    ∃ q n, (q, n) ∈ e.located ∧ ∃ c ∈ n.children, p = q ++ [c.2] ∧ x = c.1 := by
  induction e using operands_induction generalizing p with
  | step e ih =>
    rcases mem_located_iff.mp hx with ⟨c, hc, q, hq, rfl⟩ | ⟨rfl, -⟩
    · by_cases hnil : q = []
      · -- the node is itself an operand of the root
        subst hnil
        obtain rfl : x = c.1 := eq_of_mem_located hq (mem_located_self c.1)
        exact ⟨[], e, mem_located_self e, c, hc, rfl, rfl⟩
      · obtain ⟨q', n, hn, d, hd, rfl, rfl⟩ := ih c.1 (mem_operands_of_mem_children hc) hq hnil
        exact ⟨c.2 :: q', n, mem_located_iff.mpr (.inl ⟨c, hc, q', hn, rfl⟩), d, hd, rfl, rfl⟩
    · exact absurd rfl hp

end Expr

variable {e n x : Expr} {p : Path}

/-- The node at a path is an operand of another node, which has a slot for it. -/
inductive OperandAt (e : Expr) : Path → Expr → Expr → Slot → Prop
  | mk {p : Path} {n x : Expr} {step : Step} {slot : Slot} {j : Nat} (hn : (p, n) ∈ e.located)
    (hstep : n.steps[j]? = some step) (hslot : n.slots[j]? = some slot)
    (hx : n.operands[j]? = some x) : OperandAt e (p ++ [step]) x n slot

namespace OperandAt

variable {x' n' : Expr} {slot slot' : Slot}

theorem mem_located (h : OperandAt e p x n slot) : (p, x) ∈ e.located := by
  obtain @⟨p, n, x, step, slot, j, hn, hstep, -, hx⟩ := h
  have hc : (x, step) ∈ n.children :=
    List.mem_iff_getElem?.mpr ⟨j, List.getElem?_zip_eq_some.mpr ⟨hx, hstep⟩⟩
  exact Expr.mem_located_of_mem_children hn hc

/-- A node is an operand of one other node, in one slot. -/
theorem unique (h : OperandAt e p x n slot) (h' : OperandAt e p x' n' slot') :
    n' = n ∧ slot' = slot := by
  generalize hq : p = q at h'
  obtain @⟨p, n, x, step, slot, j, hn, hstep, hslot, -⟩ := h
  obtain @⟨q, n', x', step', slot', j', hn', hstep', hslot', -⟩ := h'
  obtain ⟨rfl, hsteps⟩ := List.append_inj' hq rfl
  obtain rfl : step = step' := List.head_eq_of_cons_eq hsteps
  obtain rfl : n' = n := Expr.eq_of_mem_located hn' hn
  -- the step tells the operands of the node apart
  obtain ⟨hj, hs⟩ := List.getElem?_eq_some_iff.mp hstep
  have hjj : j = j' := (List.getElem?_inj hj n'.nodup_steps).mp (hstep.trans hstep'.symm)
  subst hjj
  exact ⟨rfl, Option.some.inj (hslot'.symm.trans hslot)⟩

end OperandAt

/-- Every node but the root is an operand of another node, which has a slot for it. -/
theorem exists_operandAt (hx : (p, x) ∈ e.located) (hp : p ≠ []) :
    ∃ n slot, OperandAt e p x n slot := by
  obtain ⟨q, n, hn, c, hc, rfl, rfl⟩ := Expr.exists_parent hx hp
  obtain ⟨j, hj⟩ := List.mem_iff_getElem?.mp hc
  obtain ⟨hoperand, hstep⟩ := List.getElem?_zip_eq_some.mp hj
  have hlt : j < n.slots.length := by
    rw [n.length_slots]
    exact (List.getElem?_eq_some_iff.mp hoperand).1
  exact ⟨n, n.slots[j], .mk hn hstep (List.getElem?_eq_getElem hlt) hoperand⟩

end RecordExpr
