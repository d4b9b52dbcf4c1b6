import RecordExpr.Eval
import RecordExpr.Proofs.Outcome

/-!
# The steps of an evaluation

A node reads its operands one after another, each as what it takes there: a value, a text, a place,
a condition, a branch or a pattern. Most nodes go on with what is present and have a fixed result
as soon as something is absent (`whenPresent`). Here `eval` is written in these steps, one equation
for each operator, so that a property of outcomes that the steps keep is one of `eval`. The
equations hold by computation up to the order in which the steps are bracketed
(`bind_bind_eq_whenPresent`); nothing else unfolds `eval`.
-/

namespace RecordExpr

variable {α : Type}

@[simp]
theorem whenPresent_error (err : EvalError) (absent : Result) (f : α → Except EvalError Result) :
    whenPresent (.error err) absent f = .error err := rfl

@[simp]
theorem whenPresent_none (absent : Result) (f : α → Except EvalError Result) :
    whenPresent (.ok none) absent f = .ok absent := rfl

@[simp]
theorem whenPresent_some (a : α) (absent : Result) (f : α → Except EvalError Result) :
    whenPresent (.ok (some a)) absent f = f a := rfl

/-- A step after which the cases are told apart by whether something is present. -/
theorem bind_eq_whenPresent {x : Except EvalError (Option α)} {absent : Result}
    {go : Option α → Except EvalError Result} {f : α → Except EvalError Result}
    (hnone : go none = .ok absent) (hsome : ∀ a, go (some a) = f a) :
    x >>= go = whenPresent x absent f := by
  refine bind_congr fun a? => ?_
  cases a? with
  | none => exact hnone
  | some a => exact hsome a

/-- The same where it takes two steps to know whether something is present. -/
theorem bind_bind_eq_whenPresent {β : Type} {x : Except EvalError β}
    {read : β → Except EvalError (Option α)} {absent : Result}
    {go : Option α → Except EvalError Result} {f : α → Except EvalError Result}
    (hnone : go none = .ok absent) (hsome : ∀ a, go (some a) = f a) :
    (x >>= fun b => read b >>= go) = whenPresent (x >>= read) absent f := by
  rw [← bind_assoc]
  exact bind_eq_whenPresent hnone hsome

/-- What holds of the result for absence and of every result with something present holds of all. -/
theorem ResultsIn.whenPresent {P : Result → Prop} {x : Except EvalError (Option α)}
    {absent : Result} {f : α → Except EvalError Result} (ha : P absent)
    (hf : ∀ a, x = .ok (some a) → ResultsIn P (f a)) : ResultsIn P (whenPresent x absent f) := by
  refine .bind fun a? h => ?_
  cases a? with
  | none => exact .ok ha
  | some a => exact hf a h

/-- An error comes from the first step or from what is done with something present. -/
theorem ErrorsIn.whenPresent {E : EvalError → Prop} {x : Except EvalError (Option α)}
    {absent : Result} {f : α → Except EvalError Result} (hx : ErrorsIn E x)
    (hf : ∀ a, x = .ok (some a) → ErrorsIn E (f a)) : ErrorsIn E (whenPresent x absent f) := by
  refine hx.bind fun a? h => ?_
  cases a? with
  | none => exact .ok absent
  | some a => exact hf a h

/-- Outcomes that are the same, but for some errors of the first, go on to be the same. -/
theorem SameUnless.whenPresent {E : EvalError → Prop} {x y : Except EvalError (Option α)}
    {absent : Result} {f g : α → Except EvalError Result} (hx : SameUnless E x y)
    (hf : ∀ a, x = .ok (some a) → SameUnless E (f a) (g a)) :
    SameUnless E (whenPresent x absent f) (whenPresent y absent g) := by
  refine hx.bind fun a? h => ?_
  cases a? with
  | none => exact .rfl
  | some a => exact hf a h

/-- Outcomes that are related go on to be related, if the result for absence is related to
itself. -/
theorem Related.whenPresent {β : Type} {R : α → β → Prop} {S : Result → Result → Prop}
    {x : Except EvalError (Option α)} {y : Except EvalError (Option β)} {absent : Result}
    {f : α → Except EvalError Result} {g : β → Except EvalError Result}
    (hx : Related (Option.Rel R) x y) (ha : S absent absent)
    (hf : ∀ a b, R a b → Related S (f a) (g b)) :
    Related S (whenPresent x absent f) (whenPresent y absent g) := by
  refine hx.bind fun a? b? h => ?_
  cases h with
  | none => exact .ok ha
  | some h => exact hf _ _ h

/-! ### Reading an operand -/

section Operands

variable (env : Environment) (mismatch : EvalError)

def valueOf (x : Expr) : Except EvalError (Option Value) := do return (← eval env x).value?

def textOf (x : Expr) : Except EvalError (Option String) := do (← eval env x).text mismatch

def placeOf (x : Expr) : Except EvalError (Option Nat) := do (← eval env x).place mismatch

def conditionOf (x : Expr) : Except EvalError Bool := do (← eval env x).condition mismatch

def branchOf (k : Kind) (x : Expr) : Except EvalError Result := do
  (← eval env x).expectKind mismatch k

def patternOf (anchored : Bool) (source : Expr) : Except EvalError (Option Regex.Compiled) :=
  resolvePattern mismatch anchored (source.fixedPattern? anchored) (eval env source)

end Operands

/-- The value of an operand after which the cases are told apart by whether there is one. -/
theorem bind_eq_whenPresent_valueOf {env : Environment} {x : Expr} {absent : Result}
    {go : Result → Except EvalError Result} {f : Value → Except EvalError Result}
    (habsent : ∀ k, go (.absent k) = .ok absent) (hpresent : ∀ v, go (.present v) = f v) :
    eval env x >>= go = whenPresent (valueOf env x) absent f := by
  rw [whenPresent, valueOf, bind_assoc]
  refine bind_congr fun r => ?_
  cases r with
  | absent k => exact habsent k
  | present v => exact hpresent v

/-- An operand has a value if its result is present. -/
theorem valueOf_eq_some_iff {env : Environment} {x : Expr} {v : Value} :
    valueOf env x = .ok (some v) ↔ eval env x = .ok (.present v) := by
  unfold valueOf
  rw [bind_eq_ok_iff]
  constructor
  · rintro ⟨r, hr, h⟩
    cases r with
    | absent k => cases h
    | present w =>
      cases h
      exact hr
  · intro h
    exact ⟨_, h, rfl⟩

/-- An operand has a text if its result is a string that is present. -/
theorem textOf_eq_some_iff {env : Environment} {mismatch : EvalError} {x : Expr} {s : String} :
    textOf env mismatch x = .ok (some s) ↔ eval env x = .ok (.present (.string s)) := by
  unfold textOf
  rw [bind_eq_ok_iff]
  constructor
  · rintro ⟨r, hr, h⟩
    unfold Result.text at h
    split at h <;> cases h
    exact hr
  · intro h
    exact ⟨_, h, rfl⟩

/-! ### Evaluation in steps -/

section Equations

variable {env : Environment}

theorem eval_attr (name : String) :
    eval env (.attr name) = .ok (.ofOption .string ((env.lookup name).map .string)) := rfl

theorem eval_now : eval env .now = .ok (.present (.date env.now)) := rfl

/-- The format of the expression comes before the configured one. -/
theorem eval_convert (target : Kind) (x : Expr) (format : Option String) :
    eval env (.convert target x format) =
      whenPresent (valueOf env x) (.absent target) fun v => do
        return .present (← v.convert (Expr.convert target x format).mismatch
          (format.or env.config.dateFormat) target) := by
  exact bind_eq_whenPresent_valueOf (fun k => rfl) fun v => rfl

/-- Absence is for the operator to deal with. -/
theorem eval_unary (op : Unary) (x : Expr) :
    eval env (.unary op x) =
      eval env x >>= op.apply (Expr.unary op x).mismatch (Expr.unary op x).kind := by
  rfl

/-- A comparison with something absent is false, and the second operand is not looked at after an
absent first one. -/
theorem eval_compare (op : Comparison) (x y : Expr) :
    eval env (.compare op x y) =
      whenPresent (valueOf env x) (.present (.boolean false)) fun a =>
        whenPresent (valueOf env y) (.present (.boolean false)) fun b =>
          op.onValues (Expr.compare op x y).mismatch (op.domain? x.kind y.kind) a b := by
  refine bind_eq_whenPresent_valueOf (fun k => rfl) fun a => ?_
  exact bind_eq_whenPresent_valueOf (fun k => rfl) fun b => rfl

/-- Both operands are evaluated before either is found to be absent. -/
theorem eval_arithmetic (op : Arithmetic) (x y : Expr) :
    eval env (.arithmetic op x y) =
      valueOf env x >>= fun a? => valueOf env y >>= fun b? =>
        whenPresent (.ok a?) (.absent (Expr.arithmetic op x y).kind) fun a =>
          whenPresent (.ok b?) (.absent (Expr.arithmetic op x y).kind) fun b => do
            return .present (← op.onValues (Expr.arithmetic op x y).mismatch
              (op.domain? x.kind y.kind) a b) := by
  simp only [valueOf, bind_assoc]
  refine bind_congr fun r => bind_congr fun s => ?_
  cases r <;> cases s <;> rfl

theorem eval_logical (op : Connective) (xs : List Expr) :
    eval env (.logical op xs) =
      evalLogical env (Expr.logical op xs).mismatch op xs >>= fun b =>
        .ok (.present (.boolean b)) := by
  rfl

/-- One branch only is evaluated, and its result has to be of the kind of the first branch. -/
theorem eval_ifElse (c x y : Expr) :
    eval env (.ifElse c x y) =
      conditionOf env (Expr.ifElse c x y).mismatch c >>= fun b =>
        branchOf env (Expr.ifElse c x y).mismatch x.kind (if b then x else y) := by
  simp only [conditionOf, branchOf, bind_assoc]
  refine bind_congr fun r => bind_congr fun b => ?_
  cases b <;> rfl

/-- The replacement is evaluated only if the subject is absent. -/
theorem eval_replaceNull (x y : Expr) :
    eval env (.replaceNull x y) =
      eval env x >>= fun r =>
        if r.isAbsent then branchOf env (Expr.replaceNull x y).mismatch x.kind y else .ok r := by
  rfl

/-- The text is absent if one of the texts is. -/
theorem eval_concat (xs : List Expr) :
    eval env (.concat xs) =
      whenPresent (evalConcat env xs) (.absent .string) fun s => .ok (.present (.string s)) := by
  exact bind_eq_whenPresent rfl fun s => rfl

/-- The subject comes first, and the place is not looked at if there is no text. -/
theorem eval_substringFrom (x i : Expr) :
    eval env (.substringFrom x i) =
      whenPresent (textOf env (Expr.substringFrom x i).mismatch x) (.absent .string) fun s =>
        whenPresent (placeOf env (Expr.substringFrom x i).mismatch i) (.absent .string) fun n =>
          .ok (.present (.string (substringOf s n none))) := by
  refine bind_bind_eq_whenPresent rfl fun s => ?_
  exact bind_bind_eq_whenPresent rfl fun n => rfl

theorem eval_substring (x i j : Expr) :
    eval env (.substring x i j) =
      whenPresent (textOf env (Expr.substring x i j).mismatch x) (.absent .string) fun s =>
        whenPresent (placeOf env (Expr.substring x i j).mismatch i) (.absent .string) fun n =>
          whenPresent (placeOf env (Expr.substring x i j).mismatch j) (.absent .string) fun m =>
            .ok (.present (.string (substringOf s n (some m)))) := by
  refine bind_bind_eq_whenPresent rfl fun s => ?_
  refine bind_bind_eq_whenPresent rfl fun n => ?_
  exact bind_bind_eq_whenPresent rfl fun m => rfl

/-- A test of an absent text, or with an absent one, is false. -/
theorem eval_test_text (op : StringTest) (x y : Expr) :
    eval env (.test op x .text y) =
      whenPresent (textOf env (Expr.test op x .text y).mismatch x) (.present (.boolean false))
        fun s =>
          whenPresent (textOf env (Expr.test op x .text y).mismatch y) (.present (.boolean false))
            fun part =>
              match op.onTexts? s part with
              | some b => .ok (.present (.boolean b))
              | none => .error (Expr.test op x .text y).mismatch := by
  refine bind_bind_eq_whenPresent rfl fun s => ?_
  exact bind_bind_eq_whenPresent rfl fun part => rfl

/-- The pattern is made before the length of the text is looked at. -/
theorem eval_test_pattern (op : StringTest) (x y : Expr) (anchored : Bool) :
    eval env (.test op x (.pattern anchored) y) =
      whenPresent (textOf env (Expr.test op x (.pattern anchored) y).mismatch x)
        (.present (.boolean false)) fun s =>
          if op.usesPattern then
            whenPresent (patternOf env (Expr.test op x (.pattern anchored) y).mismatch anchored y)
              (.present (.boolean false)) fun r =>
                env.config.checkPatternInput s >>= fun _ =>
                  .ok (.present (.boolean (r.matchesIn s)))
          else .error (Expr.test op x (.pattern anchored) y).mismatch := by
  refine bind_bind_eq_whenPresent rfl fun s => ?_
  cases op.usesPattern with
  | false => rfl
  | true => exact bind_eq_whenPresent rfl fun r => rfl

/-- The replacement is evaluated before what is looked for. -/
theorem eval_replace_text (x y z : Expr) :
    eval env (.replace x .text y z) =
      whenPresent (textOf env (Expr.replace x .text y z).mismatch x) (.absent .string) fun s =>
        whenPresent (textOf env (Expr.replace x .text y z).mismatch z) (.absent .string) fun new =>
          whenPresent (textOf env (Expr.replace x .text y z).mismatch y) (.absent .string)
            fun old =>
              .ok (.present (.string
                (String.ofList (Text.replaceAll old.toList new.toList s.toList)))) := by
  refine bind_bind_eq_whenPresent rfl fun s => ?_
  refine bind_bind_eq_whenPresent rfl fun new => ?_
  exact bind_bind_eq_whenPresent rfl fun old => rfl

/-- The replacement is evaluated before the pattern is made. -/
theorem eval_replace_pattern (x y z : Expr) (anchored : Bool) :
    eval env (.replace x (.pattern anchored) y z) =
      whenPresent (textOf env (Expr.replace x (.pattern anchored) y z).mismatch x)
        (.absent .string) fun s =>
          whenPresent (textOf env (Expr.replace x (.pattern anchored) y z).mismatch z)
            (.absent .string) fun new =>
              whenPresent
                (patternOf env (Expr.replace x (.pattern anchored) y z).mismatch anchored y)
                (.absent .string) fun r =>
                  env.config.checkPatternInput s >>= fun _ =>
                    .ok (.present (.string (r.replaceAll s new))) := by
  refine bind_bind_eq_whenPresent rfl fun s => ?_
  refine bind_bind_eq_whenPresent rfl fun new => ?_
  exact bind_eq_whenPresent rfl fun r => rfl

/-- An operand that is the answer ends the evaluation. -/
theorem evalLogical_cons (mismatch : EvalError) (op : Connective) (x : Expr) (xs : List Expr) :
    evalLogical env mismatch op (x :: xs) =
      conditionOf env mismatch x >>= fun b =>
        if b = (op == .or) then .ok b else evalLogical env mismatch op xs := by
  simp only [conditionOf, bind_assoc]
  refine bind_congr fun r => bind_congr fun b => ?_
  cases op <;> cases b <;> rfl

/-- An operand that is absent ends the evaluation; a text is added in front of the rest. -/
theorem evalConcat_cons (x : Expr) (xs : List Expr) :
    evalConcat env (x :: xs) =
      valueOf env x >>= fun
        | none => .ok none
        | some v =>
          v.render env.config.dateFormat >>= fun s =>
            evalConcat env xs >>= fun rest => .ok (rest.map (s ++ ·)) := by
  simp only [valueOf, bind_assoc]
  refine bind_congr fun r => ?_
  cases r <;> rfl

end Equations

end RecordExpr
