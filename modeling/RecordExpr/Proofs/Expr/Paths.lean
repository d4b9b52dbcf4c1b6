import Mathlib.Data.List.Basic
import RecordExpr.Expr.Signature
import RecordExpr.Proofs.Text.Digits

/-!
# Paths are told apart by their texts

No two operands of a node are reached by the same step: those with a role of their own have no
number, and those that share one are numbered from zero (`Expr.nodup_steps`). A step is written as
its role, with the number in brackets behind it, and the steps of a path are separated by dots. The
roles have neither dots nor brackets in their names, so a path can be read off its text
(`Path.render_injective`). The text of a path that goes on from another one begins with the text of
that one, where the root was (`Path.exists_render_append`).
-/

namespace RecordExpr

/-! ### Steps -/

variable {before roles : List Role} {r : Role} {s t : Step}

/-- Steps to operands whose role some operand before them has are numbered from there on. -/
theorem exists_index_of_mem_stepsFrom (hs : s ∈ stepsFrom before roles) (hr : s.role ∈ before) :
    ∃ i, s.index = some i ∧ before.count s.role ≤ i := by
  induction roles generalizing before with
  | nil => cases hs
  | cons r rs ih =>
    rcases List.mem_cons.mp hs with rfl | hs
    · exact ⟨before.count r, if_pos (by simp [show r ∈ before from hr]), Nat.le_refl _⟩
    · obtain ⟨i, hi, hle⟩ := ih hs (List.mem_append_left _ hr)
      rw [List.count_append] at hle
      exact ⟨i, hi, by omega⟩

theorem nodup_stepsFrom (before roles : List Role) : (stepsFrom before roles).Nodup := by
  induction roles generalizing before with
  | nil => exact List.nodup_nil
  | cons r rs ih =>
    refine List.nodup_cons.mpr ⟨fun hmem => ?_, ih _⟩
    -- the steps after this one that have its role have larger numbers
    obtain ⟨i, hi, hle⟩ := exists_index_of_mem_stepsFrom hmem (by simp)
    rw [List.count_append, List.count_singleton_self] at hle
    dsimp only at hi
    split at hi
    · cases hi
      exact Nat.not_succ_le_self _ hle
    · cases hi

/-- No two operands of a node are reached by the same step. -/
theorem Expr.nodup_steps (e : Expr) : e.steps.Nodup := nodup_stepsFrom _ _

/-! ### Texts of steps -/

theorem Role.name_injective {r r' : Role} (h : r.name = r'.name) : r = r' := by
  cases r <;> cases r' <;> revert h <;> decide

/-- What stands behind the role in the text of a step. -/
def Step.suffix (s : Step) : List Char :=
  match s.index with
  | none => []
  | some i => '[' :: (Text.natDigits i ++ [']'])

theorem Step.toList_render (s : Step) : s.render.toList = s.role.name.toList ++ s.suffix := by
  rw [Step.render, Step.suffix]
  cases s.index with
  | none => simp
  | some i => simp [Nat.toString_eq_repr, Nat.toList_repr, Text.natDigits]

theorem Role.name_letters (r : Role) : ∀ c ∈ r.name.toList, c ≠ '.' ∧ c ≠ '[' := by
  cases r <;> simp [name]

theorem Text.natDigits_injective {m n : Nat} (h : natDigits m = natDigits n) : m = n := by
  rw [← (numeral_natDigits m).value_eq, h, (numeral_natDigits n).value_eq]

/-- What follows the role tells the place in a list. -/
theorem Step.index_eq_of_suffix_eq (h : s.suffix = t.suffix) : s.index = t.index := by
  unfold suffix at h
  split at h
  · next hs =>
    split at h
    · next ht => rw [hs, ht]
    · cases h
  · next i hs =>
    split at h
    · cases h
    · next j ht =>
      have hdigits : Text.natDigits i = Text.natDigits j :=
        List.append_cancel_right (List.tail_eq_of_cons_eq h)
      rw [hs, ht, Text.natDigits_injective hdigits]

theorem Step.takeWhile_render (s : Step) :
    s.render.toList.takeWhile (· ≠ '[') = s.role.name.toList := by
  have hname : ∀ c ∈ s.role.name.toList, decide (c ≠ '[') = true := fun c hc =>
    decide_eq_true (s.role.name_letters c hc).2
  have hsuffix : s.suffix.takeWhile (· ≠ '[') = [] := by
    unfold suffix
    split
    · rfl
    · rfl
  rw [toList_render, List.takeWhile_append_of_pos hname, hsuffix, List.append_nil]

/-- Steps are told apart by their texts. -/
theorem Step.render_injective (h : s.render = t.render) : s = t := by
  have hname : s.role.name.toList = t.role.name.toList := by
    rw [← takeWhile_render, h, takeWhile_render]
  have hrole : s.role = t.role := Role.name_injective (String.toList_inj.mp hname)
  have hsuffix : s.suffix = t.suffix := by
    have happend : s.role.name.toList ++ s.suffix = t.role.name.toList ++ t.suffix := by
      rw [← toList_render, h, toList_render]
    rw [hname] at happend
    exact List.append_cancel_left happend
  have hindex : s.index = t.index := index_eq_of_suffix_eq hsuffix
  obtain ⟨r, i⟩ := s
  obtain ⟨r', i'⟩ := t
  dsimp only at hrole hindex
  rw [hrole, hindex]

/-! ### Texts of paths -/

/-- The sign between steps is in none of them. -/
theorem Step.dot_notMem_render (s : Step) : '.' ∉ s.render.toList := by
  rw [Step.toList_render, List.mem_append]
  rintro (h | h)
  · exact (s.role.name_letters _ h).1 rfl
  · unfold Step.suffix at h
    split at h
    · cases h
    · next i _ =>
      have hdigit : '.' ∉ Text.natDigits i := fun h =>
        absurd ((Text.numeral_natDigits i).allDigits _ h) (by decide)
      simp [hdigit] at h

/-- The text of a path falls into those of its steps at the dots. -/
theorem Path.splitOn_render (p : Path) :
    p.render.toList.splitOn '.' = "root".toList :: p.map (·.render.toList) := by
  rw [render, String.toList_intercalate]
  refine (List.splitOn_intercalate '.' ?_ (List.cons_ne_nil _ _)).trans ?_
  · simp only [List.map_map, List.forall_mem_cons, List.forall_mem_map]
    exact ⟨by decide, fun s _ => s.dot_notMem_render⟩
  · simp

/-- So paths are told apart by theirs. -/
theorem Path.render_injective : Function.Injective Path.render := by
  intro p q h
  have hsteps : p.map (·.render.toList) = q.map (·.render.toList) := by
    have hsplit := p.splitOn_render
    rw [h, q.splitOn_render] at hsplit
    exact (List.tail_eq_of_cons_eq hsplit).symm
  refine List.map_injective_iff.mpr (fun s t hst => ?_) hsteps
  exact Step.render_injective (String.toList_inj.mp hst)

/-- The text of a path that goes on from another one: the text of that one stands for the root. -/
theorem Path.exists_render_append (path p : Path) :
    ∃ rest, p.render = "root" ++ rest ∧ Path.render (path ++ p) = path.render ++ rest := by
  cases p with
  | nil => exact ⟨"", by decide, by simp⟩
  | cons s p =>
    refine ⟨"." ++ ".".intercalate ((s :: p).map Step.render), ?_, ?_⟩
    · rw [render, List.map_cons, String.intercalate_cons_cons, String.append_assoc]
    · have hsplit := String.intercalate_append_of_ne_nil (s := ".")
        (List.cons_ne_nil "root" (path.map Step.render))
        (List.cons_ne_nil s.render (p.map Step.render))
      rw [render, List.map_append, ← List.cons_append, List.map_cons, hsplit, String.append_assoc]
      rfl

end RecordExpr
