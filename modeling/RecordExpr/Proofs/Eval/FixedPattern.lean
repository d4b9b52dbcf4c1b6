import RecordExpr.Proofs.Eval.Agreement

/-!
# Patterns that belong to an expression

A pattern with a fixed source is made once, from the value that the source has in the constant
environment, while `freshPatternOf` makes it from the value in the evaluation at hand. A fixed
source asks for no attribute, no instant and no configured date format (`SameInputs.of_isFixed`), so
the two values can differ only through the limit on texts that are given to patterns, which patterns
inside of the source are subject to (`eval_eq_or_refuses_of_isFixed`). Where the values differ, so
do the patterns (`patternOf_ne_of_eval_ne`).
-/

namespace RecordExpr

variable {env env₁ env₂ : Environment} {n source : Expr} {anchored : Bool}

/-! ### Limits -/

/-- The first limit refuses every text that the second one refuses. -/
def LimitLE (a b : Option Nat) : Prop := ∀ limit, b = some limit → ∃ limit' ≤ limit, a = some limit'

/-- Of two limits one is the wider. -/
theorem LimitLE.total (a b : Option Nat) : LimitLE a b ∨ LimitLE b a := by
  cases a with
  | none =>
    right
    rintro limit ⟨⟩
  | some x =>
    cases b with
    | none =>
      left
      rintro limit ⟨⟩
    | some y =>
      rcases Nat.le_total x y with h | h
      · left
        rintro _ ⟨⟩
        exact ⟨x, h, rfl⟩
      · right
        rintro _ ⟨⟩
        exact ⟨y, h, rfl⟩

def EvalError.IsInputTooLarge (err : EvalError) : Prop :=
  ∃ length limit, err = inputTooLarge length limit

/-- A text in the expression is refused by the limit on texts that are given to patterns. -/
def RefusesText (env : Environment) (e : Expr) : Prop :=
  ∃ err, err.IsInputTooLarge ∧ eval env e = .error err

/-- The wider limit may let pass what the other refuses, and nothing else differs. -/
theorem checkPatternInput_same {c d : Config} (h : LimitLE c.maxPatternInput d.maxPatternInput)
    (s : String) :
    SameUnless EvalError.IsInputTooLarge (c.checkPatternInput s) (d.checkPatternInput s) := by
  unfold Config.checkPatternInput
  cases hd : d.maxPatternInput with
  | none =>
    cases c.maxPatternInput with
    | none => exact .rfl
    | some limit =>
      dsimp only
      split
      · exact .inr ⟨_, ⟨_, _, rfl⟩, rfl⟩
      · exact .rfl
  | some limit =>
    obtain ⟨limit', hle, hc⟩ := h limit hd
    rw [hc]
    dsimp only
    -- what is too long for the wider limit is too long for both
    by_cases hs : limit' < s.utf8ByteSize
    · rw [if_pos hs]
      exact .inr ⟨_, ⟨_, _, rfl⟩, rfl⟩
    · rw [if_neg hs, if_neg (by omega)]
      exact .rfl

theorem isInputTooLarge_of_checkPatternInput {c : Config} {s : String} {err : EvalError}
    (h : c.checkPatternInput s = .error err) : err.IsInputTooLarge := by
  unfold Config.checkPatternInput at h
  split at h
  · split at h <;> cases h
    exact ⟨_, _, rfl⟩
  · cases h

/-! ### Fixed sources -/

/-- A source without inputs still depends on the limit of the configuration. -/
theorem eval_same_of_isFixed (h : source.isFixed)
    (hl : LimitLE env₁.config.maxPatternInput env₂.config.maxPatternInput) :
    SameUnless EvalError.IsInputTooLarge (eval env₁ source) (eval env₂ source) :=
  (SameInputs.of_isFixed h).eval_same (checkPatternInput_same hl)

/-- In two environments a fixed source has the same outcome, or one of them refuses a text. -/
theorem eval_eq_or_refuses_of_isFixed (h : source.isFixed) (env₁ env₂ : Environment) :
    eval env₁ source = eval env₂ source ∨ RefusesText env₁ source ∨ RefusesText env₂ source := by
  rcases LimitLE.total env₁.config.maxPatternInput env₂.config.maxPatternInput with hl | hl
  · rcases eval_same_of_isFixed h hl with he | hr
    · exact .inl he
    · exact .inr (.inl hr)
  · rcases eval_same_of_isFixed h hl with he | hr
    · exact .inl he.symm
    · exact .inr (.inr hr)

/-- Under one limit it is the same everywhere. -/
theorem eval_eq_of_isFixed (h : source.isFixed)
    (hl : env₁.config.maxPatternInput = env₂.config.maxPatternInput) :
    eval env₁ source = eval env₂ source :=
  (SameInputs.of_isFixed h).eval_eq hl

theorem isFixed_of_fixedPattern? {c : Except EvalError Regex.Compiled}
    (h : source.fixedPattern? anchored = some c) : source.isFixed := by
  unfold Expr.fixedPattern? at h
  split at h
  · assumption
  · cases h

/-- What is stored is the pattern of a fixed source, or the error of it. -/
theorem fixedPattern?_eq_some_iff {c : Except EvalError Regex.Compiled} :
    source.fixedPattern? anchored = some c ↔
      source.isFixed ∧
        ((∃ err, eval .constant source = .error err ∧ c = .error err) ∨
          ∃ s, eval .constant source = .ok (.present (.string s)) ∧
            c = compilePattern s anchored) := by
  unfold Expr.fixedPattern?
  by_cases hf : source.isFixed
  · rw [if_pos hf]
    cases eval .constant source with
    | error err => simp [patternOfValue?, hf, eq_comm]
    | ok r =>
      cases r with
      | absent k => simp [patternOfValue?, Result.string?]
      | present v => cases v <;> simp [patternOfValue?, Result.string?, hf, eq_comm]
  · simp [hf]

/-! ### Patterns of an evaluation -/

/-- The pattern made of the value that the source has in this evaluation, unless that is absent. -/
def freshPatternOf (env : Environment) (mismatch : EvalError) (anchored : Bool) (source : Expr) :
    Except EvalError (Option Regex.Compiled) := do
  match ← textOf env mismatch source with
  | none => return none
  | some s => return some (← compilePattern s anchored)

/-- Where nothing is stored, the pattern is made anew. -/
theorem patternOf_of_fixedPattern?_eq_none {mismatch : EvalError}
    (h : source.fixedPattern? anchored = none) :
    patternOf env mismatch anchored source = freshPatternOf env mismatch anchored source := by
  rw [patternOf, h, freshPatternOf, textOf, bind_assoc]
  refine bind_congr fun r => bind_congr fun s => ?_
  cases s <;> rfl

theorem freshPatternOf_of_error {mismatch err : EvalError} (h : eval env source = .error err) :
    freshPatternOf env mismatch anchored source = .error err := by
  rw [freshPatternOf, textOf, h]
  rfl

theorem freshPatternOf_of_string {mismatch : EvalError} {s : String}
    (h : eval env source = .ok (.present (.string s))) :
    freshPatternOf env mismatch anchored source = some <$> compilePattern s anchored := by
  rw [freshPatternOf, textOf, h]
  rfl

/-- What is stored is right wherever the source is as it was when the pattern was made. -/
theorem patternOf_of_eval_eq {mismatch : EvalError} (h : eval env source = eval .constant source) :
    patternOf env mismatch anchored source = freshPatternOf env mismatch anchored source := by
  cases hc : source.fixedPattern? anchored with
  | none => exact patternOf_of_fixedPattern?_eq_none hc
  | some c =>
    rw [patternOf, hc]
    obtain ⟨_, ⟨err, hs, rfl⟩ | ⟨s, hs, rfl⟩⟩ := fixedPattern?_eq_some_iff.mp hc
    · rw [freshPatternOf_of_error (h.trans hs)]
      rfl
    · rw [freshPatternOf_of_string (h.trans hs)]
      cases compilePattern s anchored <;> rfl

/-- A pattern is refused for its text. -/
theorem error_of_compilePattern {s : String} {err : EvalError}
    (h : compilePattern s anchored = .error err) : ∃ fault, err = .invalidPattern s fault := by
  unfold compilePattern at h
  split at h
  · cases h
  · cases h
    exact ⟨_, rfl⟩

theorem error_of_text {mismatch err : EvalError} {r : Result} (h : r.text mismatch = .error err) :
    err = mismatch := by
  unfold Result.text at h
  split at h
  · cases h
  · cases h
  · cases h
    rfl

/-- A limit that refuses a text for the pattern refuses it for the source already. -/
theorem eval_of_freshPatternOf_error {err : EvalError} (hl : err.IsInputTooLarge)
    (h : freshPatternOf env n.mismatch anchored source = .error err) :
    eval env source = .error err := by
  obtain ⟨length, limit, rfl⟩ := hl
  rcases bind_eq_error_iff.mp h with h | ⟨s?, _, h⟩
  · rcases bind_eq_error_iff.mp h with h | ⟨r, _, h⟩
    · exact h
    · cases error_of_text h
  · cases s? with
    | none => cases h
    | some s =>
      rcases bind_eq_error_iff.mp h with h | ⟨_, _, h⟩
      · obtain ⟨fault, hf⟩ := error_of_compilePattern h
        cases hf
      · cases h

/-- What is stored is wrong wherever the source has changed. -/
theorem patternOf_ne_of_eval_ne (hf : (source.fixedPattern? anchored).isSome)
    (he : eval env source ≠ eval .constant source) :
    patternOf env n.mismatch anchored source ≠ freshPatternOf env n.mismatch anchored source := by
  obtain ⟨c, hc⟩ := Option.isSome_iff_exists.mp hf
  intro heq
  rw [patternOf, hc] at heq
  obtain ⟨hfix, hcase⟩ := fixedPattern?_eq_some_iff.mp hc
  -- the side that refuses a text has that error for its pattern, and the other side has not
  rcases eval_eq_or_refuses_of_isFixed hfix env .constant with h | ⟨err, hl, h⟩ | ⟨err, hl, h⟩
  · exact he h
  · rw [freshPatternOf_of_error h] at heq
    rcases hcase with ⟨err', hs, rfl⟩ | ⟨s, hs, rfl⟩
    · obtain rfl : err' = err := by simpa [resolvePattern] using heq
      exact he (h.trans hs.symm)
    · -- what was made in advance is a pattern or the fault of one
      cases hp : compilePattern s anchored with
      | ok r =>
        rw [hp] at heq
        cases heq
      | error err' =>
        rw [hp] at heq
        obtain rfl : err' = err := by simpa [resolvePattern] using heq
        obtain ⟨fault, rfl⟩ := error_of_compilePattern hp
        obtain ⟨_, _, hl⟩ := hl
        cases hl
  · rcases hcase with ⟨err', hs, rfl⟩ | ⟨s, hs, rfl⟩
    · obtain rfl : err = err' := by simpa using h.symm.trans hs
      exact he ((eval_of_freshPatternOf_error hl heq.symm).trans hs.symm)
    · cases h.symm.trans hs

/-! ### When a pattern may be made in advance -/

/-- The pattern that belongs to an expression is another one than would be made in an evaluation
just where the source has another outcome there, and this only by a limit other than that of the
default configuration, when one of the two refuses a text for a pattern in the source. -/
theorem patternOf_ne_freshPatternOf_iff (env : Environment) (n source : Expr) (anchored : Bool) :
    patternOf env n.mismatch anchored source ≠ freshPatternOf env n.mismatch anchored source ↔
      (source.fixedPattern? anchored).isSome ∧ eval env source ≠ eval .constant source ∧
        env.config.maxPatternInput ≠ Config.default.maxPatternInput ∧
          (RefusesText env source ∨ RefusesText .constant source) := by
  constructor
  · intro hne
    have he : eval env source ≠ eval .constant source := fun h => hne (patternOf_of_eval_eq h)
    cases hc : source.fixedPattern? anchored with
    | none => exact absurd (patternOf_of_fixedPattern?_eq_none hc) hne
    | some c =>
      have hfix := isFixed_of_fixedPattern? hc
      refine ⟨rfl, he, fun hl => he (eval_eq_of_isFixed hfix hl), ?_⟩
      exact (eval_eq_or_refuses_of_isFixed hfix env .constant).resolve_left he
  · rintro ⟨hf, he, _, _⟩
    exact patternOf_ne_of_eval_ne hf he

/-- A text of ten bytes, in which a pattern finds every `a` to make it a `b`. -/
def tenLetters : Expr :=
  .replace (.literal (.present (.string "aaaaaaaaaa"))) (.pattern false)
    (.literal (.present (.string "a"))) (.literal (.present (.string "b")))

/-- Nothing is given to patterns that is longer than four bytes. -/
def fourBytes : Environment := ⟨fun _ => none, .epoch, ⟨none, some 4⟩⟩

/-- A pattern that is made in advance evades a limit that is set later. -/
theorem patternOf_tenLetters_ne_freshPatternOf :
    let n := Expr.test .fullMatch (.literal (.present (.string "b"))) (.pattern true) tenLetters
    patternOf fourBytes n.mismatch true tenLetters ≠
      freshPatternOf fourBytes n.mismatch true tenLetters := by
  refine patternOf_ne_of_eval_ne rfl fun h => ?_
  have hlimit : eval fourBytes tenLetters = .error (.inputTooLarge 10 4) := rfl
  have hok := congrArg Except.isOk (hlimit.symm.trans h)
  cases hok

end RecordExpr
