import Mathlib.Data.String.Basic
import RecordExpr.Proofs.Eval.Absence

/-!
# Comparisons

The strings, the whole numbers and the dates have one order each (`Value.Precedes`): strings by the
codes of their characters, numbers by their size and dates by time. Two values of one of these kinds
come one before the other or are equal, and all six operators answer to which of the three it is
(`answers_cases`). So they agree with one another and put the operands of one kind in a total
order (`OrdersTotally`), and each of them is another one with the operands the other way round
(`Comparison.mirrored`).

This is about operands that are present. Where one is absent nothing holds, not even the
operator for unequal operands, whichever way round.

The main statement is `comparisons_order_totally`.
-/

namespace RecordExpr

variable {env : Environment} {x y z : Expr} {u v w : Value} {k : Kind}

/-! ### The order of values -/

/-- The kinds whose values are put in a total order. -/
def Kind.ordered : List Kind := [.string, .wholeNumber, .date]

/-- One value comes before another one in the order of their kind. A leap second comes after the
second that it prolongs. -/
inductive Value.Precedes : Value → Value → Prop
  | string {s t : String} (h : s.toList < t.toList) : Precedes (.string s) (.string t)
  | wholeNumber {m n : WholeNumber} (h : m.toInt < n.toInt) :
    Precedes (.wholeNumber m) (.wholeNumber n)
  | earlierSecond {i j : Instant} (h : i.second < j.second) : Precedes (.date i) (.date j)
  | sameSecond {i j : Instant} (h : i.second = j.second) (h' : i.nano < j.nano) :
    Precedes (.date i) (.date j)

namespace Value

/-- No value comes before itself. -/
theorem not_precedes_self (u : Value) : ¬u.Precedes u := by
  rintro (h | h | h | ⟨-, h⟩)
  · exact lt_irrefl _ h
  all_goals exact Int.lt_irrefl _ h

/-- What comes before an earlier value comes before a later one. -/
theorem Precedes.trans (huv : u.Precedes v) (hvw : v.Precedes w) : u.Precedes w := by
  cases huv with
  | string h =>
    cases hvw with
    | string h' => exact .string (lt_trans h h')
  | wholeNumber h =>
    cases hvw with
    | wholeNumber h' => exact .wholeNumber (Int.lt_trans h h')
  | earlierSecond h =>
    cases hvw with
    | earlierSecond h' => exact .earlierSecond (Int.lt_trans h h')
    | sameSecond h' _ => exact .earlierSecond (h' ▸ h)
  | sameSecond h hnano =>
    cases hvw with
    | earlierSecond h' => exact .earlierSecond (h ▸ h')
    | sameSecond h' hnano' => exact .sameSecond (h.trans h') (Int.lt_trans hnano hnano')

/-- The order is strict. -/
theorem Precedes.not_precedes (h : u.Precedes v) : ¬v.Precedes u :=
  fun h' => not_precedes_self u (h.trans h')

end Value

/-- An order says which of two values comes before the other one. -/
inductive InOrder : Ordering → Value → Value → Prop
  | lt {u v : Value} (h : u.Precedes v) : InOrder .lt u v
  | eq (u : Value) : InOrder .eq u u
  | gt {u v : Value} (h : v.Precedes u) : InOrder .gt u v

namespace InOrder

variable {o o' : Ordering}

/-- The ordering of two values is decided by which one comes first. -/
theorem lt_iff (h : InOrder o u v) : o = .lt ↔ u.Precedes v := by
  cases h with
  | lt h => exact iff_of_true rfl h
  | eq u => exact iff_of_false nofun u.not_precedes_self
  | gt h => exact iff_of_false nofun h.not_precedes

/-- The other way round, the ordering is the opposite one. -/
theorem swap (h : InOrder o u v) : InOrder o.swap v u := by
  cases h with
  | lt h => exact .gt h
  | eq u => exact .eq u
  | gt h => exact .lt h

theorem gt_iff (h : InOrder o u v) : o = .gt ↔ v.Precedes u := by
  rw [← h.swap.lt_iff, Ordering.swap_eq_lt]

/-- Two values in no order are equal. -/
theorem eq_iff (h : InOrder o u v) : o = .eq ↔ u = v := by
  cases h with
  | lt h => exact iff_of_false nofun fun heq => u.not_precedes_self (heq ▸ h)
  | eq u => exact iff_of_true rfl rfl
  | gt h => exact iff_of_false nofun fun heq => v.not_precedes_self (heq ▸ h)

/-- Two values have only one ordering. -/
theorem unique (h : InOrder o u v) (h' : InOrder o' u v) : o = o' := by
  cases h with
  | lt h => exact (h'.lt_iff.mpr h).symm
  | eq u => exact (h'.eq_iff.mpr rfl).symm
  | gt h => exact (h'.gt_iff.mpr h).symm

end InOrder

/-! ### The order of each kind -/

/-- Texts are compared character by character. -/
theorem compare_string_eq_lt_iff {s t : String} : compare s t = .lt ↔ s.toList < t.toList :=
  compareOfLessAndEq_eq_lt.trans String.lt_iff_toList_lt

/-- Strings are ordered by their characters. -/
theorem inOrder_string (s t : String) : InOrder (compare s t) (.string s) (.string t) := by
  cases h : compare s t with
  | lt => exact .lt (.string (compare_string_eq_lt_iff.mp h))
  | eq =>
    obtain rfl := Std.LawfulEqCmp.eq_of_compare h
    exact .eq _
  | gt => exact .gt (.string (compare_string_eq_lt_iff.mp (Std.OrientedCmp.gt_iff_lt.mp h)))

theorem inOrder_wholeNumber (m n : WholeNumber) :
    InOrder (compare m.toInt n.toInt) (.wholeNumber m) (.wholeNumber n) := by
  cases h : compare m.toInt n.toInt with
  | lt => exact .lt (.wholeNumber (Int.compare_eq_lt.mp h))
  | eq =>
    obtain rfl := WholeNumber.ext (Int.compare_eq_eq.mp h)
    exact .eq _
  | gt => exact .gt (.wholeNumber (Int.compare_eq_gt.mp h))

/-- Dates are compared by their seconds and then by their nanoseconds. -/
theorem inOrder_date (i j : Instant) : InOrder (i.compare j) (.date i) (.date j) := by
  rw [Instant.compare]
  cases h : compare i.second j.second with
  | lt => exact .lt (.earlierSecond (Int.compare_eq_lt.mp h))
  | gt => exact .gt (.earlierSecond (Int.compare_eq_gt.mp h))
  | eq =>
    -- a leap second has the number of the second before it and more nanoseconds
    have hsecond : i.second = j.second := Int.compare_eq_eq.mp h
    rw [Ordering.eq_then]
    cases h' : compare i.nano j.nano with
    | lt => exact .lt (.sameSecond hsecond (Int.compare_eq_lt.mp h'))
    | gt => exact .gt (.sameSecond hsecond.symm (Int.compare_eq_gt.mp h'))
    | eq =>
      obtain rfl := Instant.ext hsecond (Int.compare_eq_eq.mp h')
      exact .eq _

/-- The operators look at the order of the two values, whichever of the ordered kinds they have. -/
theorem exists_order (hk : k ∈ Kind.ordered) (hu : u.kind = k) (hv : v.kind = k) :
    ∃ o, InOrder o u v ∧ ∀ (op : Comparison) (mismatch : EvalError),
      op.onValues mismatch (op.domain? u.kind v.kind) u v =
        .ok (.present (.boolean (op.holds (some o)))) := by
  subst hu
  cases u with
  | string s =>
    cases v with
    | string t => exact ⟨compare s t, inOrder_string s t, fun op _ => by cases op <;> rfl⟩
    | _ => cases hv
  | wholeNumber m =>
    cases v with
    | wholeNumber n =>
      exact ⟨compare m.toInt n.toInt, inOrder_wholeNumber m n, fun op _ => by cases op <;> rfl⟩
    | _ => cases hv
  | date i =>
    cases v with
    | date j => exact ⟨i.compare j, inOrder_date i j, fun op _ => by cases op <;> rfl⟩
    | _ => cases hv
  | boolean _ | decimal _ => simp [Kind.ordered, Value.kind] at hk

/-! ### Operands -/

/-- An operator says something of two operands. -/
def Answers (env : Environment) (op : Comparison) (x y : Expr) (b : Bool) : Prop :=
  eval env (.compare op x y) = .ok (.present (.boolean b))

/-- An operator holds for two operands. -/
def Holds (env : Environment) (op : Comparison) (x y : Expr) : Prop := Answers env op x y true

/-- An expression of some kind that has a value. -/
structure HasValueOf (env : Environment) (k : Kind) (x : Expr) : Prop where
  kind : x.kind = k
  value : ∃ v, eval env x = .ok (.present v)

/-- The operator that says the same of the operands the other way round. -/
def Comparison.mirrored : Comparison → Comparison
  | equals => equals
  | notEquals => notEquals
  | lessThan => greaterThan
  | lessThanOrEqual => greaterThanOrEqual
  | greaterThan => lessThan
  | greaterThanOrEqual => lessThanOrEqual

/-- A comparison holds of an ordering just if its mirror image holds of the opposite one. -/
theorem Comparison.holds_mirrored (op : Comparison) (o : Ordering) :
    op.mirrored.holds (some o.swap) = op.holds (some o) := by
  cases op <;> cases o <;> rfl

/-- A comparison with an answer holds if that is true. -/
theorem holds_iff {op : Comparison} {b : Bool} (h : Answers env op x y b) :
    Holds env op x y ↔ b = true := by
  rw [Holds, Answers, h]
  simp

section Ordered

variable (hk : k ∈ Kind.ordered) (hx : HasValueOf env k x) (hy : HasValueOf env k y)
include hk hx hy

/-- All six operators answer to the order of the values. -/
theorem answers_cases :
    ∃ u v o, eval env x = .ok (.present u) ∧ eval env y = .ok (.present v) ∧ InOrder o u v ∧
      ∀ op : Comparison, Answers env op x y (op.holds (some o)) := by
  obtain ⟨u, hu⟩ := hx.value
  obtain ⟨v, hv⟩ := hy.value
  -- values have the kinds that the operands declare, by which the domain is chosen
  have huk : u.kind = k := (kind_of_eval hu).trans hx.kind
  have hvk : v.kind = k := (kind_of_eval hv).trans hy.kind
  obtain ⟨o, ho, hop⟩ := exists_order hk huk hvk
  refine ⟨u, v, o, hu, hv, ho, fun op => ?_⟩
  rw [Answers, eval_compare_of_present op hu hv, hop]

/-- One operand is less than another if its value comes first. -/
theorem holds_lessThan_iff : Holds env .lessThan x y ↔
    ∃ u v, eval env x = .ok (.present u) ∧ eval env y = .ok (.present v) ∧ u.Precedes v := by
  obtain ⟨u, v, o, hu, hv, ho, hop⟩ := answers_cases hk hx hy
  have hlt : Comparison.lessThan.holds (some o) = true ↔ o = .lt := by cases o <;> decide
  rw [holds_iff (hop _), hlt, ho.lt_iff, hu, hv]
  simp

/-- Operands of one kind are equal if they have the same result. -/
theorem holds_equals_iff : Holds env .equals x y ↔ eval env x = eval env y := by
  obtain ⟨u, v, o, hu, hv, ho, hop⟩ := answers_cases hk hx hy
  have heq : Comparison.equals.holds (some o) = true ↔ o = .eq := by cases o <;> decide
  rw [holds_iff (hop _), heq, ho.eq_iff, hu, hv]
  simp

/-- To be at most something is to be less or equal. -/
theorem holds_lessThanOrEqual_iff : Holds env .lessThanOrEqual x y ↔
    Holds env .lessThan x y ∨ Holds env .equals x y := by
  obtain ⟨u, v, o, -, -, -, hop⟩ := answers_cases hk hx hy
  rw [holds_iff (hop _), holds_iff (hop _), holds_iff (hop _)]
  cases o <;> decide

/-- Of the three ways in which two operands can be ordered exactly one holds. -/
theorem exists_unique_holds :
    ∃! op, op ∈ [.lessThan, .equals, .greaterThan] ∧ Holds env op x y := by
  obtain ⟨u, v, o, -, -, -, hop⟩ := answers_cases hk hx hy
  simp only [holds_iff (hop _), List.mem_cons, List.not_mem_nil, or_false]
  cases o with
  | lt => exact ⟨.lessThan, by decide, by rintro _ ⟨rfl | rfl | rfl, h⟩ <;> cases h; rfl⟩
  | eq => exact ⟨.equals, by decide, by rintro _ ⟨rfl | rfl | rfl, h⟩ <;> cases h; rfl⟩
  | gt => exact ⟨.greaterThan, by decide, by rintro _ ⟨rfl | rfl | rfl, h⟩ <;> cases h; rfl⟩

/-- Operands change places if the comparison is mirrored. -/
theorem eval_mirrored (op : Comparison) :
    eval env (.compare op x y) = eval env (.compare op.mirrored y x) := by
  obtain ⟨u, v, o, hu, hv, ho, hop⟩ := answers_cases hk hx hy
  obtain ⟨v', u', o', hv', hu', ho', hop'⟩ := answers_cases hk hy hx
  cases hu.symm.trans hu'
  cases hv.symm.trans hv'
  rw [hop op, hop' op.mirrored, ← op.holds_mirrored, ho'.unique ho.swap]

/-- One operand is at most the other one if its value comes first, or both have the same. -/
theorem holds_lessThanOrEqual_iff_values : Holds env .lessThanOrEqual x y ↔
    (∃ u v, eval env x = .ok (.present u) ∧ eval env y = .ok (.present v) ∧ u.Precedes v) ∨
      eval env x = eval env y := by
  rw [holds_lessThanOrEqual_iff hk hx hy, holds_lessThan_iff hk hx hy, holds_equals_iff hk hx hy]

/-- The order of operands passes on. -/
theorem holds_lessThanOrEqual_trans (hz : HasValueOf env k z)
    (hxy : Holds env .lessThanOrEqual x y) (hyz : Holds env .lessThanOrEqual y z) :
    Holds env .lessThanOrEqual x z := by
  rw [holds_lessThanOrEqual_iff_values hk hx hy] at hxy
  rw [holds_lessThanOrEqual_iff_values hk hy hz] at hyz
  rw [holds_lessThanOrEqual_iff_values hk hx hz]
  rcases hxy with ⟨u, v, hu, hv, huv⟩ | hxy
  · rcases hyz with ⟨v', w, hv', hw, hvw⟩ | hyz
    · cases hv.symm.trans hv'
      exact .inl ⟨u, w, hu, hw, huv.trans hvw⟩
    · exact .inl ⟨u, v, hu, hyz ▸ hv, huv⟩
  · rw [hxy]
    exact hyz

/-- Operands that are at most each other are equal. -/
theorem holds_lessThanOrEqual_antisymm (hxy : Holds env .lessThanOrEqual x y)
    (hyx : Holds env .lessThanOrEqual y x) : Holds env .equals x y := by
  rw [holds_equals_iff hk hx hy]
  rw [holds_lessThanOrEqual_iff_values hk hx hy] at hxy
  rw [holds_lessThanOrEqual_iff_values hk hy hx] at hyx
  rcases hxy with ⟨u, v, hu, hv, huv⟩ | hxy
  · rcases hyx with ⟨v', u', hv', hu', hvu⟩ | hyx
    · cases hu.symm.trans hu'
      cases hv.symm.trans hv'
      exact absurd hvu huv.not_precedes
    · exact hyx.symm
  · exact hxy

end Ordered

/-- The operators put the expressions with some property in the total order of their values. -/
structure OrdersTotally (env : Environment) (P : Expr → Prop) : Prop where
  answers : ∀ {x y}, P x → P y → ∀ op, ∃ b, Answers env op x y b
  exactly_one : ∀ {x y}, P x → P y →
    ∃! op, op ∈ [.lessThan, .equals, .greaterThan] ∧ Holds env op x y
  lessThan : ∀ {x y}, P x → P y → (Holds env .lessThan x y ↔
    ∃ u v, eval env x = .ok (.present u) ∧ eval env y = .ok (.present v) ∧ u.Precedes v)
  equals : ∀ {x y}, P x → P y → (Holds env .equals x y ↔ eval env x = eval env y)
  notEquals : ∀ {x y}, P x → P y → (Holds env .notEquals x y ↔ ¬Holds env .equals x y)
  lessThanOrEqual : ∀ {x y}, P x → P y →
    (Holds env .lessThanOrEqual x y ↔ Holds env .lessThan x y ∨ Holds env .equals x y)
  greaterThanOrEqual : ∀ {x y}, P x → P y →
    (Holds env .greaterThanOrEqual x y ↔ Holds env .greaterThan x y ∨ Holds env .equals x y)
  trans : ∀ {x y z}, P x → P y → P z →
    Holds env .lessThanOrEqual x y → Holds env .lessThanOrEqual y z →
      Holds env .lessThanOrEqual x z
  antisymm : ∀ {x y}, P x → P y →
    Holds env .lessThanOrEqual x y → Holds env .lessThanOrEqual y x → Holds env .equals x y
  mirrored : ∀ {x y}, P x → P y → ∀ op,
    eval env (.compare op x y) = eval env (.compare op.mirrored y x)

/-- The comparisons of one ordered kind, all laws together. -/
theorem ordersTotally (hk : k ∈ Kind.ordered) : OrdersTotally env (HasValueOf env k) where
  answers hx hy op := by
    obtain ⟨_, _, o, _, _, _, hop⟩ := answers_cases hk hx hy
    exact ⟨_, hop op⟩
  exactly_one hx hy := exists_unique_holds hk hx hy
  lessThan hx hy := holds_lessThan_iff hk hx hy
  equals hx hy := holds_equals_iff hk hx hy
  notEquals hx hy := by
    obtain ⟨_, _, o, _, _, _, hop⟩ := answers_cases hk hx hy
    rw [holds_iff (hop _), holds_iff (hop _)]
    cases o <;> decide
  lessThanOrEqual hx hy := holds_lessThanOrEqual_iff hk hx hy
  greaterThanOrEqual hx hy := by
    obtain ⟨_, _, o, _, _, _, hop⟩ := answers_cases hk hx hy
    rw [holds_iff (hop _), holds_iff (hop _), holds_iff (hop _)]
    cases o <;> decide
  trans hx hy hz := holds_lessThanOrEqual_trans hk hx hy hz
  antisymm hx hy := holds_lessThanOrEqual_antisymm hk hx hy
  mirrored hx hy := eval_mirrored hk hx hy

/-! ### Absent operands -/

/-- A comparison with something absent is false, whichever it is. -/
theorem answers_false_of_absent (hx : HasResult env x) (hy : HasResult env y)
    (h : IsAbsentIn env x ∨ IsAbsentIn env y) (op : Comparison) : Answers env op x y false := by
  refine (yieldsIf_of_compare ?_).yields ?_
  · simpa [Expr.operands] using ⟨hx, hy⟩
  · simpa [HasAbsentOperand, Expr.operands] using h

/-- The comparison operators put the strings, the whole numbers and the dates in one total order
each. Where both operands have results and one of them is absent, no operator holds, whichever way
round. -/
theorem comparisons_order_totally (env : Environment) :
    (∀ k ∈ Kind.ordered, OrdersTotally env (HasValueOf env k)) ∧
    ∀ x y, HasResult env x → HasResult env y → IsAbsentIn env x ∨ IsAbsentIn env y →
      ∀ op, Answers env op x y false ∧ Answers env op y x false := by
  refine ⟨fun k hk => ordersTotally hk, fun x y hx hy h op => ⟨?_, ?_⟩⟩
  · exact answers_false_of_absent hx hy h op
  · exact answers_false_of_absent hy hx h.symm op

/-- A leap second comes before the second after it. An absent date is not even unequal to it. -/
theorem comparisons_order_totally_leap_second :
    let leap : Instant :=
      ⟨59, 1999999999, by decide, by decide, by decide, by decide⟩
    let next : Instant := ⟨60, 0, by decide, by decide, by decide, by decide⟩
    let x := Expr.literal (.present (.date leap))
    let y := Expr.literal (.present (.date next))
    let absent := Expr.literal (.absent .date)
    Holds .constant .lessThan x y ∧
    eval .constant (.compare .greaterThan y x) = eval .constant (.compare .lessThan x y) ∧
    Answers .constant .notEquals x absent false ∧ Answers .constant .notEquals absent x false := by
  intro leap next x y absent
  have hx : HasValueOf .constant .date x := ⟨rfl, _, rfl⟩
  have hy : HasValueOf .constant .date y := ⟨rfl, _, rfl⟩
  obtain ⟨horder, habsent⟩ := comparisons_order_totally .constant
  have hdates : OrdersTotally .constant (HasValueOf .constant .date) := horder .date (by decide)
  refine ⟨?_, (hdates.mirrored hx hy .lessThan).symm, ?_⟩
  · exact (hdates.lessThan hx hy).mpr ⟨_, _, rfl, rfl, .earlierSecond (by decide)⟩
  · exact habsent x absent ⟨_, rfl⟩ ⟨_, rfl⟩ (.inr ⟨_, rfl⟩) .notEquals

end RecordExpr
