import RecordExpr.Apply
import RecordExpr.Expr.Signature

/-!
# Evaluation

Evaluation goes through a tree from the left to the right and stops at the first error. The result
has the kind that the expression declares.

A pattern whose source does not depend on the record, the clock or the configured date format is the
same in every evaluation. It belongs to the expression and is made from the value that the source
has with the default configuration.

The main definitions are `eval` and `Expr.fixedPattern?`.
-/

namespace RecordExpr

/-- The error of a node whose operands do not fit to its signature. -/
def Expr.mismatch (e : Expr) : EvalError :=
  .illTyped e.operator (e.slots.map (·.accepted)) (e.operands.map (·.kind))

/-- Whether a pattern with this source belongs to the expression. -/
def Expr.isFixed (source : Expr) : Bool := source.isConstant && !source.usesDateFormat

/-- The pattern made of the value of a fixed source; `none` if that is not a text. -/
def patternOfValue? (anchored : Bool) :
    Except EvalError Result → Option (Except EvalError Regex.Compiled)
  | .error e => some (.error e)
  | .ok r => r.string?.map (compilePattern · anchored)

/-- The pattern for an evaluation: the one that belongs to the expression, or else one made of the
present value of the source, unless that is absent. -/
@[inline]
def resolvePattern (mismatch : EvalError) (anchored : Bool)
    (fixed : Option (Except EvalError Regex.Compiled)) (value : Except EvalError Result) :
    Except EvalError (Option Regex.Compiled) :=
  match fixed with
  | some (.ok r) => .ok (some r)
  | some (.error e) => .error e
  | none => do
    match ← (← value).text mismatch with
    | some pattern => return some (← compilePattern pattern anchored)
    | none => return none

mutual

/-- The result of an expression. -/
def eval (env : Environment) : Expr → Except EvalError Result
  | .literal r => .ok r
  | .attr name => .ok (.ofOption .string ((env.lookup name).map .string))
  | .now => .ok (.present (.date env.now))
  | .convert target operand format => do
    match ← eval env operand with
    | .absent _ => return .absent target
    | .present v =>
      let mismatch := (Expr.convert target operand format).mismatch
      return .present (← v.convert mismatch (format.or env.config.dateFormat) target)
  | .unary op operand => do
    let e := Expr.unary op operand
    op.apply e.mismatch e.kind (← eval env operand)
  | .compare op subject comparison => do
    match ← eval env subject with
    | .absent _ => return .present (.boolean false)
    | .present a =>
      -- not evaluated beside an absent subject
      match ← eval env comparison with
      | .absent _ => return .present (.boolean false)
      | .present b =>
        op.onValues (Expr.compare op subject comparison).mismatch
          (op.domain? subject.kind comparison.kind) a b
  | .arithmetic op subject operand => do
    let e := Expr.arithmetic op subject operand
    -- both sides are evaluated, whatever the first one yields
    match ← eval env subject, ← eval env operand with
    | .present a, .present b =>
      return .present (← op.onValues e.mismatch (op.domain? subject.kind operand.kind) a b)
    | _, _ => return .absent e.kind
  | .logical op operands => do
    return .present (.boolean (← evalLogical env (Expr.logical op operands).mismatch op operands))
  | .ifElse condition consequent alternative => do
    let mismatch := (Expr.ifElse condition consequent alternative).mismatch
    if ← (← eval env condition).condition mismatch then
      (← eval env consequent).expectKind mismatch consequent.kind
    else
      (← eval env alternative).expectKind mismatch consequent.kind
  | .replaceNull subject replacement => do
    let r ← eval env subject
    if r.isAbsent then
      (← eval env replacement).expectKind (Expr.replaceNull subject replacement).mismatch
        subject.kind
    else return r
  | .concat operands => do
    return .ofOption .string ((← evalConcat env operands).map .string)
  | .substringFrom subject start => do
    let mismatch := (Expr.substringFrom subject start).mismatch
    match ← (← eval env subject).text mismatch with
    | none => return .absent .string
    | some s =>
      match ← (← eval env start).place mismatch with
      | none => return .absent .string
      | some i => return .present (.string (substringOf s i none))
  | .substring subject start stop => do
    let mismatch := (Expr.substring subject start stop).mismatch
    match ← (← eval env subject).text mismatch with
    | none => return .absent .string
    | some s =>
      match ← (← eval env start).place mismatch with
      | none => return .absent .string
      | some i =>
        match ← (← eval env stop).place mismatch with
        | none => return .absent .string
        | some j => return .present (.string (substringOf s i (some j)))
  | .test op subject search argument => do
    let mismatch := (Expr.test op subject search argument).mismatch
    match ← (← eval env subject).text mismatch with
    | none => return .present (.boolean false)
    | some s =>
      match search with
      | .text =>
        match ← (← eval env argument).text mismatch with
        | none => return .present (.boolean false)
        | some part =>
          match op.onTexts? s part with
          | some b => return .present (.boolean b)
          | none => throw mismatch
      | .pattern anchored =>
        if op.usesPattern then
          let fixed :=
            -- the pattern of a fixed source was made before, without the record
            if argument.isFixed then patternOfValue? anchored (eval .constant argument) else none
          match ← resolvePattern mismatch anchored fixed (eval env argument) with
          | none => return .present (.boolean false)
          | some r =>
            env.config.checkPatternInput s
            return .present (.boolean (r.matchesIn s))
        else throw mismatch
  | .replace subject search argument replacement => do
    let mismatch := (Expr.replace subject search argument replacement).mismatch
    match ← (← eval env subject).text mismatch with
    | none => return .absent .string
    | some s =>
      match ← (← eval env replacement).text mismatch with
      | none => return .absent .string
      | some new =>
        match search with
        | .text =>
          match ← (← eval env argument).text mismatch with
          | none => return .absent .string
          | some old =>
            return .present (.string
              (String.ofList (Text.replaceAll old.toList new.toList s.toList)))
        | .pattern anchored =>
          let fixed :=
            if argument.isFixed then patternOfValue? anchored (eval .constant argument) else none
          match ← resolvePattern mismatch anchored fixed (eval env argument) with
          | none => return .absent .string
          | some r =>
            env.config.checkPatternInput s
            return .present (.string (r.replaceAll s new))

/-- The truth of a conjunction or a disjunction; operands after the one that decides are not
evaluated. -/
def evalLogical (env : Environment) (mismatch : EvalError) (op : Connective) :
    List Expr → Except EvalError Bool
  | [] => .ok (op == .and)
  | e :: es => do
    match op, ← (← eval env e).condition mismatch with
    | .and, false => return false
    | .or, true => return true
    | _, _ => evalLogical env mismatch op es

/-- The texts of some operands, one after another; `none` from the first absent one on. -/
def evalConcat (env : Environment) : List Expr → Except EvalError (Option String)
  | [] => .ok (some "")
  | e :: es => do
    match ← eval env e with
    | .absent _ => return none
    | .present v =>
      let s ← v.render env.config.dateFormat
      return (← evalConcat env es).map (s ++ ·)

end

/-- The pattern that belongs to an expression with this source, if one does. -/
def Expr.fixedPattern? (source : Expr) (anchored : Bool) :
    Option (Except EvalError Regex.Compiled) :=
  if source.isFixed then patternOfValue? anchored (eval .constant source) else none

/-- The pattern that a node looks for: whether it is anchored, and its source. -/
def Expr.pattern? : Expr → Option (Bool × Expr)
  | test _ _ (.pattern anchored) source | replace _ (.pattern anchored) source _ =>
    some (anchored, source)
  | _ => none

end RecordExpr
