import RecordExpr.Eval
import RecordExpr.Prepared.Basic

/-!
# Evaluation of prepared expressions

A prepared expression is evaluated with the patterns that its nodes hold. Only where a node holds
nothing is the source of the pattern evaluated, and the pattern made of its value.

What a node ought to hold is made when the node is built, by an evaluation of the source, in which
the patterns within the source are those that the source holds itself.

The main definitions are `Prepared.eval`, `Sought.ofSource` and `Expr.prepare`.
-/

namespace RecordExpr

namespace Prepared

mutual

/-- The result of a prepared expression. -/
def eval (env : Environment) : Prepared → Except EvalError Result
  | .literal r => .ok r
  | .attr name => .ok (.ofOption .string ((env.lookup name).map .string))
  | .now => .ok (.present (.date env.now))
  | .convert target x format =>
    let mismatch := (Expr.convert target x.expr format).mismatch
    whenPresent (do return (← eval env x).value?) (.absent target) fun v => do
      return .present (← v.convert mismatch (format.or env.config.dateFormat) target)
  | .unary op x => do
    let e := Expr.unary op x.expr
    op.apply e.mismatch e.kind (← eval env x)
  | .compare op x y =>
    let mismatch := (Expr.compare op x.expr y.expr).mismatch
    whenPresent (do return (← eval env x).value?) (.present (.boolean false)) fun a =>
      whenPresent (do return (← eval env y).value?) (.present (.boolean false)) fun b =>
        op.onValues mismatch (op.domain? x.expr.kind y.expr.kind) a b
  | .arithmetic op x y => do
    let e := Expr.arithmetic op x.expr y.expr
    let a? := (← eval env x).value?
    let b? := (← eval env y).value?
    whenPresent (.ok a?) (.absent e.kind) fun a =>
      whenPresent (.ok b?) (.absent e.kind) fun b => do
        return .present (← op.onValues e.mismatch (op.domain? x.expr.kind y.expr.kind) a b)
  | .logical op xs => do
    let mismatch := (Expr.logical op (exprs xs)).mismatch
    return .present (.boolean (← evalLogical env mismatch op xs))
  | .ifElse c x y => do
    let mismatch := (Expr.ifElse c.expr x.expr y.expr).mismatch
    if ← (← eval env c).condition mismatch then
      (← eval env x).expectKind mismatch x.expr.kind
    else
      (← eval env y).expectKind mismatch x.expr.kind
  | .replaceNull x y => do
    let r ← eval env x
    if r.isAbsent then
      (← eval env y).expectKind (Expr.replaceNull x.expr y.expr).mismatch x.expr.kind
    else return r
  | .concat xs =>
    whenPresent (evalConcat env xs) (.absent .string) fun s => .ok (.present (.string s))
  | .substringFrom x i =>
    let mismatch := (Expr.substringFrom x.expr i.expr).mismatch
    whenPresent (do (← eval env x).text mismatch) (.absent .string) fun s =>
      whenPresent (do (← eval env i).place mismatch) (.absent .string) fun n =>
        .ok (.present (.string (substringOf s n none)))
  | .substring x i j =>
    let mismatch := (Expr.substring x.expr i.expr j.expr).mismatch
    whenPresent (do (← eval env x).text mismatch) (.absent .string) fun s =>
      whenPresent (do (← eval env i).place mismatch) (.absent .string) fun n =>
        whenPresent (do (← eval env j).place mismatch) (.absent .string) fun m =>
          .ok (.present (.string (substringOf s n (some m))))
  | .test op x sought y =>
    let mismatch := (Expr.test op x.expr sought.search y.expr).mismatch
    whenPresent (do (← eval env x).text mismatch) (.present (.boolean false)) fun s =>
      match sought with
      | .text =>
        whenPresent (do (← eval env y).text mismatch) (.present (.boolean false)) fun part =>
          match op.onTexts? s part with
          | some b => .ok (.present (.boolean b))
          | none => .error mismatch
      | .pattern anchored made =>
        if op.usesPattern then
          whenPresent (resolvePattern mismatch anchored made (eval env y))
            (.present (.boolean false)) fun r => do
              env.config.checkPatternInput s
              return .present (.boolean (r.matchesIn s))
        else .error mismatch
  | .replace x sought y z =>
    let mismatch := (Expr.replace x.expr sought.search y.expr z.expr).mismatch
    whenPresent (do (← eval env x).text mismatch) (.absent .string) fun s =>
      whenPresent (do (← eval env z).text mismatch) (.absent .string) fun new =>
        match sought with
        | .text =>
          whenPresent (do (← eval env y).text mismatch) (.absent .string) fun old =>
            .ok (.present (.string
              (String.ofList (Text.replaceAll old.toList new.toList s.toList))))
        | .pattern anchored made =>
          whenPresent (resolvePattern mismatch anchored made (eval env y)) (.absent .string)
            fun r => do
              env.config.checkPatternInput s
              return .present (.string (r.replaceAll s new))

/-- The truth of a conjunction or a disjunction; operands after the one that decides are not
evaluated. -/
def evalLogical (env : Environment) (mismatch : EvalError) (op : Connective) :
    List Prepared → Except EvalError Bool
  | [] => .ok (op == .and)
  | x :: xs => do
    let b ← (← eval env x).condition mismatch
    if b = (op == .or) then return b else evalLogical env mismatch op xs

/-- The texts of some operands, one after another; `none` from the first absent one on. -/
def evalConcat (env : Environment) : List Prepared → Except EvalError (Option String)
  | [] => .ok (some "")
  | x :: xs => do
    match (← eval env x).value? with
    | none => return none
    | some v =>
      let s ← v.render env.config.dateFormat
      return (← evalConcat env xs).map (s ++ ·)

end

end Prepared

/-! ### Preparing -/

/-- A pattern with a prepared source and what can be made of it in advance: nothing unless the
source is fixed and has a text. -/
def Sought.ofSource (source : Prepared) (anchored : Bool) : Sought :=
  .pattern anchored <|
    if source.expr.isFixed then patternOfValue? anchored (source.eval .constant) else none

/-- What is looked for with some argument, where a pattern is made in advance. -/
def Search.prepare (argument : Prepared) : Search → Sought
  | .text => .text
  | .pattern anchored => .ofSource argument anchored

namespace Expr

mutual

/-- The expression with all patterns that can be made in advance, made from the leaves up. -/
def prepare : Expr → Prepared
  | literal r => .literal r
  | attr name => .attr name
  | now => .now
  | convert target operand format => .convert target operand.prepare format
  | unary op operand => .unary op operand.prepare
  | compare op subject comparison => .compare op subject.prepare comparison.prepare
  | arithmetic op subject operand => .arithmetic op subject.prepare operand.prepare
  | logical op operands => .logical op (prepareAll operands)
  | ifElse condition consequent alternative =>
    .ifElse condition.prepare consequent.prepare alternative.prepare
  | replaceNull subject replacement => .replaceNull subject.prepare replacement.prepare
  | concat operands => .concat (prepareAll operands)
  | substringFrom subject start => .substringFrom subject.prepare start.prepare
  | substring subject start stop => .substring subject.prepare start.prepare stop.prepare
  | test op subject search argument =>
    .test op subject.prepare (search.prepare argument.prepare) argument.prepare
  | replace subject search argument replacement =>
    .replace subject.prepare (search.prepare argument.prepare) argument.prepare replacement.prepare

@[inherit_doc prepare]
def prepareAll : List Expr → List Prepared
  | [] => []
  | e :: es => e.prepare :: prepareAll es

end

theorem prepareAll_eq_map (es : List Expr) : prepareAll es = es.map prepare := by
  induction es with
  | nil => simp [prepareAll]
  | cons e es ih => simp [prepareAll, ih]

end Expr

end RecordExpr
