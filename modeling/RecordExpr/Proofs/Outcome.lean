import RecordExpr.Error

/-!
# Outcomes

The outcome of an evaluation is a result or an error, and so is that of anything that evaluates
expressions, with errors of its own. An outcome made of several steps is taken apart by
`bind_eq_ok_iff` and `bind_eq_error_iff`, and five relations follow the steps:

* `ResultsIn P x`: if `x` is a result, it is one of `P` (`ResultsIn.bind`);
* `ErrorsIn E x`: if `x` is an error, it is one of `E` (`ErrorsIn.bind`);
* `FailsIn E x`: `x` is an error, and one of `E` (`FailsIn.bind`);
* `SameUnless E x y`: the outcomes `x` and `y` are equal, or `x` is an error of `E`
  (`SameUnless.bind`);
* `Related R x y`: the outcomes `x` and `y` are the same error, or results that are in the relation
  `R` (`Related.bind`).
-/

namespace RecordExpr

variable {α β : Type} {E : EvalError → Prop}

/-- A chain succeeds if each of its links does. -/
theorem bind_eq_ok_iff {ε : Type} {x : Except ε α} {f : α → Except ε β} {b : β} :
    x >>= f = .ok b ↔ ∃ a, x = .ok a ∧ f a = .ok b := by
  cases x with
  | error err => simp [bind, Except.bind]
  | ok a => simp [bind, Except.bind]

/-- It fails with the first of them that fails. -/
theorem bind_eq_error_iff {ε : Type} {x : Except ε α} {f : α → Except ε β} {err : ε} :
    x >>= f = .error err ↔ x = .error err ∨ ∃ a, x = .ok a ∧ f a = .error err := by
  cases x with
  | error err' => simp [bind, Except.bind]
  | ok a => simp [bind, Except.bind]

/-! ### Possible results -/

/-- If the outcome is a result, it is one of `P`. -/
def ResultsIn (P : α → Prop) (x : Except EvalError α) : Prop := ∀ a, x = .ok a → P a

namespace ResultsIn

variable {P : α → Prop} {Q : β → Prop}

theorem ok {a : α} (h : P a) : ResultsIn P (.ok a) := by
  rintro _ ⟨⟩
  exact h

theorem error (err : EvalError) : ResultsIn P (.error err) := by
  intro a h
  cases h

/-- The last link decides on the result. -/
theorem bind {x : Except EvalError α} {f : α → Except EvalError β}
    (hf : ∀ a, x = .ok a → ResultsIn Q (f a)) : ResultsIn Q (x >>= f) := by
  intro b h
  obtain ⟨a, ha, h⟩ := bind_eq_ok_iff.mp h
  exact hf a ha b h

end ResultsIn

/-! ### Possible errors -/

/-- If the outcome is an error, it is one of `E`. -/
def ErrorsIn {ε : Type} (E : ε → Prop) (x : Except ε α) : Prop := ∀ err, x = .error err → E err

namespace ErrorsIn

variable {ε : Type} {E : ε → Prop}

theorem ok (a : α) : ErrorsIn E (.ok a : Except ε α) := by
  intro err h
  cases h

theorem error {err : ε} (h : E err) : ErrorsIn E (.error err : Except ε α) := by
  rintro _ ⟨⟩
  exact h

/-- Errors of a chain are errors of its links. -/
theorem bind {x : Except ε α} {f : α → Except ε β} (hx : ErrorsIn E x)
    (hf : ∀ a, x = .ok a → ErrorsIn E (f a)) : ErrorsIn E (x >>= f) := by
  intro err h
  rcases bind_eq_error_iff.mp h with h | ⟨a, ha, h⟩
  · exact hx err h
  · exact hf a ha err h

/-- The errors of a loop are those of its passes. -/
theorem foldlM {f : β → α → Except ε β} {xs : List α} (hf : ∀ x ∈ xs, ∀ b, ErrorsIn E (f b x))
    (b : β) : ErrorsIn E (xs.foldlM f b) := by
  induction xs generalizing b with
  | nil => exact .ok b
  | cons x xs ih =>
    rw [List.foldlM_cons]
    exact (hf x (by simp) b).bind fun b' _ => ih (fun y hy => hf y (by simp [hy])) b'

end ErrorsIn

/-! ### Certain errors -/

/-- The outcome is an error of `E`. -/
def FailsIn (E : EvalError → Prop) (x : Except EvalError α) : Prop := ∃ err, E err ∧ x = .error err

namespace FailsIn

theorem error {err : EvalError} (h : E err) : FailsIn E (.error err : Except EvalError α) :=
  ⟨err, h, rfl⟩

/-- What fails first fails the whole. -/
theorem bind {x : Except EvalError α} (f : α → Except EvalError β) (h : FailsIn E x) :
    FailsIn E (x >>= f) := by
  obtain ⟨err, he, rfl⟩ := h
  exact error he

end FailsIn

/-! ### Equal outcomes -/

/-- The outcomes are equal, or the first is an error of `E`. -/
def SameUnless (E : EvalError → Prop) (x y : Except EvalError α) : Prop :=
  x = y ∨ ∃ err, E err ∧ x = .error err

namespace SameUnless

theorem rfl {x : Except EvalError α} : SameUnless E x x := .inl (Eq.refl x)

theorem of_eq {x y : Except EvalError α} (h : x = y) : SameUnless E x y := .inl h

/-- Runs that agree link by link agree as a whole, as do runs that differ in an allowed error. -/
theorem bind {x y : Except EvalError α} {f g : α → Except EvalError β} (hx : SameUnless E x y)
    (hf : ∀ a, x = .ok a → SameUnless E (f a) (g a)) : SameUnless E (x >>= f) (y >>= g) := by
  rcases hx with rfl | ⟨err, hE, rfl⟩
  · cases x with
    | error err => exact rfl
    | ok a => exact hf a (Eq.refl _)
  · exact .inr ⟨err, hE, Eq.refl _⟩

end SameUnless

/-! ### Related outcomes -/

/-- The outcomes are the same error, or they are results in the relation `R`. -/
inductive Related {ε : Type} (R : α → β → Prop) : Except ε α → Except ε β → Prop
  | ok {a : α} {b : β} (h : R a b) : Related R (.ok a) (.ok b)
  | error (err : ε) : Related R (.error err) (.error err)

namespace Related

variable {ε α' β' : Type} {R : α → β → Prop} {S : α' → β' → Prop}

theorem of_eq {R : α → α → Prop} (hR : ∀ a, R a a) {x y : Except ε α} (h : x = y) :
    Related R x y := by
  subst h
  cases x with
  | error err => exact .error err
  | ok a => exact .ok (hR a)

/-- Links that keep results related do so one after another. -/
theorem bind {x : Except ε α} {y : Except ε β} {f : α → Except ε α'} {g : β → Except ε β'}
    (h : Related R x y) (hf : ∀ a b, R a b → Related S (f a) (g b)) :
    Related S (x >>= f) (y >>= g) := by
  cases h with
  | error err => exact .error err
  | ok h => exact hf _ _ h

/-- The relation is no longer needed where both runs go on alike. -/
theorem bind_congr {x : Except ε α} {y : Except ε β} {f : α → Except ε α'} {g : β → Except ε α'}
    (h : Related R x y) (hf : ∀ a b, R a b → f a = g b) : x >>= f = y >>= g := by
  cases h with
  | error err => rfl
  | ok h => exact hf _ _ h

/-- Loops over the same list are related if their passes are. -/
theorem foldlM {γ : Type} {f : α → γ → Except ε α} {g : β → γ → Except ε β} (xs : List γ)
    (hf : ∀ x ∈ xs, ∀ a b, R a b → Related R (f a x) (g b x)) {a : α} {b : β} (h : R a b) :
    Related R (xs.foldlM f a) (xs.foldlM g b) := by
  induction xs generalizing a b with
  | nil => exact .ok h
  | cons x xs ih =>
    rw [List.foldlM_cons, List.foldlM_cons]
    exact (hf x (by simp) a b h).bind fun _ _ h' => ih (fun y hy => hf y (by simp [hy])) h'

end Related

end RecordExpr
