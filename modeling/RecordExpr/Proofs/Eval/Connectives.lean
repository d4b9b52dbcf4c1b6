import RecordExpr.Proofs.Eval.Absence

/-!
# Conjunctions and disjunctions

A connective goes through its operands from the left as long as each of them has the truth that
changes nothing, and the first other operand decides: its error is the error of the whole, and its
truth is the truth of the whole (`evalLogical_eq_iff`). An absent operand counts as false, and its
negation as true.

What operands after one another come to is what the first ones come to, and what the others come to
where those do not decide (`evalLogical_append`). From this follows that a connective among its own
operands can be dissolved (`eval_logical_dissolved`), and that a negation can be moved to the
operands (`eval_not_logical`). All of this is about operands that are declared as booleans, which
never fail to be conditions (`conditionOf_eq`).

The main statement is `connectives_left_to_right`.
-/

namespace RecordExpr

namespace Connective

/-- The truth of an operand that changes nothing, and of the connective without operands. -/
def neutral : Connective → Bool
  | and => true
  | or => false

/-- The connective of the negated operands. -/
def dual : Connective → Connective
  | and => or
  | or => and

theorem neutral_dual (op : Connective) : op.dual.neutral = !op.neutral := by cases op <;> rfl

end Connective

variable {env : Environment} {mismatch : EvalError} {op : Connective} {x : Expr}
  {xs ys zs : List Expr} {b : Bool} {err : EvalError}

/-! ### Operands as conditions -/

/-- The truth that an operand counts as. -/
inductive CountsAs (env : Environment) (x : Expr) : Bool → Prop
  | present {b : Bool} (h : eval env x = .ok (.present (.boolean b))) : CountsAs env x b
  | absent (h : IsAbsentIn env x) : CountsAs env x false

/-- What counts as true or false: Booleans as they are, and absence as false. -/
theorem conditionOf_eq_ok_iff : conditionOf env mismatch x = .ok b ↔ CountsAs env x b := by
  unfold conditionOf
  rw [bind_eq_ok_iff]
  constructor
  · rintro ⟨r, hr, h⟩
    unfold Result.condition at h
    split at h <;> cases h
    · exact .absent ⟨_, hr⟩
    · exact .present hr
  · rintro (h | ⟨k, h⟩) <;> exact ⟨_, h, rfl⟩

/-- What comes of an operand that is declared as a boolean. -/
theorem eval_boolean_cases (env : Environment) (hx : x.kind = .boolean) :
    (∃ err, eval env x = .error err) ∨ eval env x = .ok (.absent .boolean) ∨
      ∃ b, eval env x = .ok (.present (.boolean b)) := by
  cases h : eval env x with
  | error err => exact .inl ⟨err, rfl⟩
  | ok r =>
    have hr : r.kind = .boolean := (kind_of_eval h).trans hx
    cases r with
    | absent k =>
      cases hr
      exact .inr (.inl rfl)
    | present v =>
      cases v with
      | boolean b => exact .inr (.inr ⟨b, rfl⟩)
      | _ => cases hr

/-- An operand that is declared as a boolean has a truth whenever it has a result. -/
theorem conditionOf_eq (hx : x.kind = .boolean) :
    conditionOf env mismatch x = (eval env x).map fun r => r.boolean?.getD false := by
  unfold conditionOf
  rcases eval_boolean_cases env hx with ⟨err, h⟩ | h | ⟨b, h⟩ <;> rw [h] <;> rfl

/-- A Boolean operand fails by itself and not because it is asked. -/
theorem conditionOf_eq_error_iff (hx : x.kind = .boolean) :
    conditionOf env mismatch x = .error err ↔ eval env x = .error err := by
  rw [conditionOf_eq hx]
  cases eval env x <;> simp [Except.map]

theorem eval_logical_eq_iff {o : Except EvalError Bool} :
    eval env (.logical op xs) = (o >>= fun b => .ok (.present (.boolean b))) ↔
      evalLogical env (Expr.logical op xs).mismatch op xs = o := by
  rw [eval_logical]
  cases evalLogical env (Expr.logical op xs).mismatch op xs <;> cases o <;>
    simp [bind, Except.bind]

/-! ### The operand that decides -/

/-- The connective comes to an operand if all those before it change nothing. -/
def Reaches (env : Environment) (op : Connective) (xs : List Expr) (x : Expr) : Prop :=
  ∃ before after, xs = before ++ x :: after ∧ ∀ y ∈ before, CountsAs env y op.neutral

theorem not_reaches_nil : ¬Reaches env op [] x := by
  rintro ⟨before, after, h, -⟩
  exact List.append_ne_nil_of_right_ne_nil before (List.cons_ne_nil x after) h.symm

/-- Operands are reached while those before them are neutral. -/
theorem reaches_cons_iff {y : Expr} : Reaches env op (x :: xs) y ↔
    y = x ∨ CountsAs env x op.neutral ∧ Reaches env op xs y := by
  constructor
  · rintro ⟨before, after, h, hbefore⟩
    cases before with
    | nil =>
      obtain ⟨rfl, -⟩ := List.cons_eq_cons.mp h
      exact .inl rfl
    | cons z before =>
      obtain ⟨rfl, rfl⟩ := List.cons_eq_cons.mp h
      rw [List.forall_mem_cons] at hbefore
      exact .inr ⟨hbefore.1, before, after, rfl, hbefore.2⟩
  · rintro (rfl | ⟨hx, before, after, rfl, hbefore⟩)
    · exact ⟨[], xs, rfl, by simp⟩
    · exact ⟨x :: before, after, rfl, List.forall_mem_cons.mpr ⟨hx, hbefore⟩⟩

theorem evalLogical_nil : evalLogical env mismatch op [] = .ok op.neutral := by
  cases op <;> rfl

/-- One step of the evaluation, for both connectives. -/
theorem evalLogical_cons_neutral (x : Expr) (xs : List Expr) :
    evalLogical env mismatch op (x :: xs) =
      conditionOf env mismatch x >>= fun b =>
        if b = op.neutral then evalLogical env mismatch op xs else .ok b := by
  rw [evalLogical_cons]
  refine bind_congr fun b => ?_
  cases op <;> cases b <;> rfl

/-- An error, or a truth that is not neutral, is that of the operand that decides. -/
theorem evalLogical_eq_iff {o : Except EvalError Bool} (ho : o ≠ .ok op.neutral) :
    evalLogical env mismatch op xs = o ↔
      ∃ x, Reaches env op xs x ∧ conditionOf env mismatch x = o := by
  induction xs with
  | nil => simp [evalLogical_nil, not_reaches_nil, ho.symm]
  | cons x xs ih =>
    have hneutral : CountsAs env x op.neutral ↔ conditionOf env mismatch x = .ok op.neutral :=
      conditionOf_eq_ok_iff.symm
    simp only [evalLogical_cons_neutral, reaches_cons_iff, or_and_right, exists_or,
      exists_eq_left, hneutral]
    cases conditionOf env mismatch x with
    | error err => simp [bind, Except.bind]
    | ok b =>
      by_cases hb : b = op.neutral
      · -- the operand changes nothing, so the others decide
        simp [bind, Except.bind, hb, ih, ho.symm]
      · simp [bind, Except.bind, hb]

theorem Reaches.mem {y : Expr} (h : Reaches env op xs y) : y ∈ xs := by
  obtain ⟨before, after, rfl, -⟩ := h
  simp

/-- The other truth value comes from an operand that was reached and has it. -/
theorem evalLogical_eq_ok_iff :
    evalLogical env mismatch op xs = .ok (!op.neutral) ↔
      ∃ x, Reaches env op xs x ∧ CountsAs env x (!op.neutral) := by
  have hne : (Except.ok (!op.neutral) : Except EvalError Bool) ≠ .ok op.neutral := by simp
  rw [evalLogical_eq_iff hne]
  simp only [conditionOf_eq_ok_iff]

/-- So does an error. -/
theorem evalLogical_eq_error_iff (hxs : ∀ x ∈ xs, x.kind = .boolean) :
    evalLogical env mismatch op xs = .error err ↔
      ∃ x, Reaches env op xs x ∧ eval env x = .error err := by
  have hne : (Except.error err : Except EvalError Bool) ≠ .ok op.neutral := nofun
  rw [evalLogical_eq_iff hne]
  refine exists_congr fun x => and_congr_right fun hx => ?_
  exact conditionOf_eq_error_iff (hxs x hx.mem)

/-- Where no operand decides, the truth is that of the connective without operands. -/
theorem evalLogical_eq_neutral_iff (hxs : ∀ x ∈ xs, x.kind = .boolean) :
    evalLogical env mismatch op xs = .ok op.neutral ↔
      ∀ x, Reaches env op xs x →
        (∀ err, eval env x ≠ .error err) ∧ ¬CountsAs env x (!op.neutral) := by
  have herror (err : EvalError) : evalLogical env mismatch op xs = .error err ↔ _ :=
    evalLogical_eq_error_iff hxs
  have hok : evalLogical env mismatch op xs = .ok (!op.neutral) ↔ _ := evalLogical_eq_ok_iff
  constructor
  · intro h x hx
    rw [h] at herror hok
    constructor
    · intro err he
      cases (herror err).mpr ⟨x, hx, he⟩
    · intro hc
      simpa using hok.mpr ⟨x, hx, hc⟩
  · intro h
    -- all other outcomes come from an operand that is reached
    cases ho : evalLogical env mismatch op xs with
    | error err =>
      obtain ⟨x, hx, he⟩ := (herror err).mp ho
      exact absurd he ((h x hx).1 err)
    | ok b =>
      by_cases hb : b = op.neutral
      · rw [hb]
      · rw [Bool.eq_not_of_ne hb] at ho
        obtain ⟨x, hx, hc⟩ := hok.mp ho
        exact absurd hc (h x hx).2

/-! ### Operands after one another -/

/-- Operands may be cut in two lists at any place. -/
theorem evalLogical_append (xs ys : List Expr) :
    evalLogical env mismatch op (xs ++ ys) =
      evalLogical env mismatch op xs >>= fun b =>
        if b = op.neutral then evalLogical env mismatch op ys else .ok b := by
  induction xs with
  | nil => simp [evalLogical_nil, bind, Except.bind]
  | cons x xs ih =>
    rw [List.cons_append, evalLogical_cons_neutral, evalLogical_cons_neutral, bind_assoc]
    refine bind_congr fun b => ?_
    by_cases hb : b = op.neutral
    · rw [if_pos hb, if_pos hb, ih]
    · rw [if_neg hb, if_neg hb]
      exact (if_neg hb).symm

/-- Operands that are declared as booleans do not raise the error that is due for others. -/
theorem evalLogical_mismatch_irrel (mismatch mismatch' : EvalError)
    (hxs : ∀ x ∈ xs, x.kind = .boolean) :
    evalLogical env mismatch op xs = evalLogical env mismatch' op xs := by
  induction xs with
  | nil => rfl
  | cons x xs ih =>
    rw [List.forall_mem_cons] at hxs
    rw [evalLogical_cons, evalLogical_cons, conditionOf_eq hxs.1, conditionOf_eq hxs.1, ih hxs.2]

/-- A connective counts as what it yields, for it is never absent. -/
theorem conditionOf_logical (hys : ∀ y ∈ ys, y.kind = .boolean) :
    conditionOf env mismatch (.logical op ys) = evalLogical env mismatch op ys := by
  rw [conditionOf, eval_logical, evalLogical_mismatch_irrel _ mismatch hys, bind_assoc]
  exact bind_pure _

theorem evalLogical_singleton (x : Expr) :
    evalLogical env mismatch op [x] = conditionOf env mismatch x := by
  rw [evalLogical_cons_neutral, evalLogical_nil]
  refine (bind_congr fun b => ?_).trans (bind_pure _)
  split
  · next hb => rw [hb]; rfl
  · rfl

/-- A connective among its own operands can be replaced by its operands. -/
theorem eval_logical_dissolved (hxs : ∀ x ∈ xs, x.kind = .boolean)
    (hys : ∀ y ∈ ys, y.kind = .boolean) (hzs : ∀ z ∈ zs, z.kind = .boolean) :
    eval env (.logical op (xs ++ [.logical op ys] ++ zs)) =
      eval env (.logical op (xs ++ ys ++ zs)) := by
  have hall : ∀ z ∈ xs ++ [.logical op ys] ++ zs, z.kind = .boolean := by
    simp only [List.mem_append, List.mem_singleton]
    rintro z ((hz | rfl) | hz)
    · exact hxs z hz
    · rfl
    · exact hzs z hz
  rw [eval_logical, eval_logical,
    evalLogical_mismatch_irrel _ (Expr.logical op (xs ++ ys ++ zs)).mismatch hall]
  simp only [evalLogical_append, evalLogical_singleton, conditionOf_logical hys]

/-! ### Negated operands -/

/-- The negation of an operand counts as the opposite, absence as true. -/
theorem conditionOf_not (mismatch mismatch' : EvalError) (hx : x.kind = .boolean) :
    conditionOf env mismatch (.unary .not x) =
      conditionOf env mismatch' x >>= fun b => .ok !b := by
  unfold conditionOf
  rw [eval_unary]
  rcases eval_boolean_cases env hx with ⟨err, h⟩ | h | ⟨b, h⟩ <;> rw [h] <;> rfl

/-- De Morgan's law for the operands in order, errors included. -/
theorem evalLogical_map_not (mismatch mismatch' : EvalError) (hxs : ∀ x ∈ xs, x.kind = .boolean) :
    evalLogical env mismatch op.dual (xs.map (.unary .not)) =
      evalLogical env mismatch' op xs >>= fun b => .ok !b := by
  induction xs with
  | nil =>
    rw [List.map_nil, evalLogical_nil, evalLogical_nil, Connective.neutral_dual]
    rfl
  | cons x xs ih =>
    rw [List.forall_mem_cons] at hxs
    rw [List.map_cons, evalLogical_cons_neutral, evalLogical_cons_neutral, ih hxs.2,
      conditionOf_not mismatch mismatch' hxs.1, bind_assoc, bind_assoc]
    refine bind_congr fun b => ?_
    -- the negation is neutral in one connective just if the operand is in the other
    cases op <;> cases b <;> rfl

/-- A negation can be moved to the operands, where the connective becomes the other one. -/
theorem eval_not_logical (hxs : ∀ x ∈ xs, x.kind = .boolean) :
    eval env (.unary .not (.logical op xs)) =
      eval env (.logical op.dual (xs.map (.unary .not))) := by
  rw [eval_logical, evalLogical_map_not _ (Expr.logical op xs).mismatch hxs, eval_unary,
    eval_logical, bind_assoc, bind_assoc]
  rfl

/-! ### Both together -/

/-- A connective of booleans fails with the error of the first operand that is not neutral, if that
fails; it has the other truth if the first operand that is not neutral counts as that; and it is
neutral itself otherwise, as it is without operands. A negation can be moved to the operands, where
the connective becomes the other one, and a connective among its own operands can be replaced by its
operands. -/
theorem connectives_left_to_right (env : Environment) (op : Connective)
    (hxs : ∀ x ∈ xs, x.kind = .boolean) (hys : ∀ y ∈ ys, y.kind = .boolean)
    (hzs : ∀ z ∈ zs, z.kind = .boolean) :
    (∀ err, eval env (.logical op xs) = .error err ↔
      ∃ x, Reaches env op xs x ∧ eval env x = .error err) ∧
    (eval env (.logical op xs) = .ok (.present (.boolean !op.neutral)) ↔
      ∃ x, Reaches env op xs x ∧ CountsAs env x (!op.neutral)) ∧
    (eval env (.logical op xs) = .ok (.present (.boolean op.neutral)) ↔
      ∀ x, Reaches env op xs x →
        (∀ err, eval env x ≠ .error err) ∧ ¬CountsAs env x (!op.neutral)) ∧
    eval env (.logical op []) = .ok (.present (.boolean op.neutral)) ∧
    eval env (.unary .not (.logical op xs)) =
      eval env (.logical op.dual (xs.map (.unary .not))) ∧
    eval env (.logical op (xs ++ [.logical op ys] ++ zs)) =
      eval env (.logical op (xs ++ ys ++ zs)) := by
  refine ⟨fun err => ?_, ?_, ?_, ?_, eval_not_logical hxs, eval_logical_dissolved hxs hys hzs⟩
  · rw [← evalLogical_eq_error_iff hxs]
    exact eval_logical_eq_iff (o := .error err)
  · rw [← evalLogical_eq_ok_iff]
    exact eval_logical_eq_iff (o := .ok !op.neutral)
  · rw [← evalLogical_eq_neutral_iff hxs]
    exact eval_logical_eq_iff (o := .ok op.neutral)
  · rw [eval_logical, evalLogical_nil]
    rfl

/-- An operand that fails does not matter behind an absent one in a conjunction, and decides in a
disjunction. -/
theorem connectives_left_to_right_absent_before_failing :
    let absent := Expr.literal (.absent .boolean)
    let failing := Expr.convert .boolean (.literal (.present (.string "maybe"))) none
    let no := Expr.literal (.present (.boolean false))
    (∀ x ∈ [absent, failing], x.kind = .boolean) ∧ no.kind = .boolean ∧
    eval .constant (.logical .and [absent, failing]) = .ok (.present (.boolean false)) ∧
    eval .constant (.logical .or [absent, failing]) =
      .error (.coercionFailed "maybe" .boolean) ∧
    eval .constant (.unary .not (.logical .and [absent, failing])) =
      eval .constant (.logical .or [.unary .not absent, .unary .not failing]) ∧
    eval .constant (.logical .or ([absent, failing] ++ [.logical .or [no]] ++ [no])) =
      eval .constant (.logical .or ([absent, failing] ++ [no] ++ [no])) := by
  intro absent failing no
  have hxs : ∀ x ∈ [absent, failing], x.kind = .boolean :=
    List.forall_mem_cons.mpr ⟨rfl, List.forall_mem_singleton.mpr rfl⟩
  have hno : ∀ x ∈ [no], x.kind = .boolean := List.forall_mem_singleton.mpr rfl
  have habsent : CountsAs .constant absent false := .absent ⟨.boolean, rfl⟩
  obtain ⟨-, hfalse, -, -, hnot, -⟩ := connectives_left_to_right .constant .and hxs hno hno
  obtain ⟨herror, -, -, -, -, hdissolved⟩ := connectives_left_to_right .constant .or hxs hno hno
  refine ⟨hxs, rfl, ?_, ?_, hnot, hdissolved⟩
  · exact hfalse.mpr ⟨absent, ⟨[], [failing], rfl, by simp⟩, habsent⟩
  · exact (herror _).mpr ⟨failing, ⟨[absent], [], rfl, List.forall_mem_singleton.mpr habsent⟩, rfl⟩

end RecordExpr
