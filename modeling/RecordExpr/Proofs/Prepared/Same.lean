import RecordExpr.Proofs.Expr.Same
import RecordExpr.Proofs.Prepared.Built

/-!
# Prepared expressions that are the same

Whether two prepared expressions are the same does not depend on what their nodes hold of patterns
(`Prepared.same`), and yet evaluation and validation rely on that. In trees that were built the two
go together, since what a node holds follows from the source of its pattern, even if there are
patterns in the source itself (`Prepared.eval_of_built`, `Prepared.validateFor_of_built`). So such
trees act alike if they are the same (`same_trees_act_alike`), where decimals are left aside that
are equal to themselves in no way or in more than one way, NaN and the zeros.
-/

namespace RecordExpr

namespace Prepared

variable {p q r : Prepared}

/-- Among trees without NaN and zeros to be the same is to be made from one expression. -/
theorem same_iff (h : p.expr.PlainDecimals) : p.same q = true ↔ p.expr = q.expr :=
  Expr.same_iff h

theorem same_refl (h : p.expr.PlainDecimals) : p.same p = true := (same_iff h).mpr rfl

theorem same_symm (hq : q.expr.PlainDecimals) (hp : p.expr.PlainDecimals) (h : p.same q = true) :
    q.same p = true := (same_iff hq).mpr ((same_iff hp).mp h).symm

theorem same_trans (hp : p.expr.PlainDecimals) (hq : q.expr.PlainDecimals)
    (hpq : p.same q = true) (hqr : q.same r = true) : p.same r = true :=
  (same_iff hp).mpr (((same_iff hp).mp hpq).trans ((same_iff hq).mp hqr))

/-- Built trees that are the same have the same result or error. -/
theorem eval_eq_of_same (hp : p.Built) (hq : q.Built) (hplain : p.expr.PlainDecimals)
    (h : p.same q = true) (env : Environment) : p.eval env = q.eval env := by
  rw [eval_of_built hp, eval_of_built hq, (same_iff hplain).mp h]

/-- Built trees that are the same have the same issues. -/
theorem validateFor_eq_of_same (hp : p.Built) (hq : q.Built) (hplain : p.expr.PlainDecimals)
    (h : p.same q = true) (required : Option Kind) :
    p.validateFor required = q.validateFor required := by
  rw [validateFor_of_built hp, validateFor_of_built hq, (same_iff hplain).mp h]

end Prepared

/-- Among the trees that can be built and whose decimals are neither NaN nor zero, sameness is an
equivalence, and trees that are the same have the same results and errors in every environment and
the same issues, whether or not a kind is required. -/
theorem same_trees_act_alike :
    Equivalence (fun p q : {p : Prepared // p.Built ∧ p.expr.PlainDecimals} =>
      p.1.same q.1 = true) ∧
    ∀ p q : Prepared, p.Built → q.Built → p.expr.PlainDecimals → p.same q = true →
      (∀ env, p.eval env = q.eval env) ∧
        ∀ required, p.validateFor required = q.validateFor required := by
  refine ⟨⟨fun p => ?_, fun {p q} h => ?_, fun {p q r} hpq hqr => ?_⟩, fun p q hp hq hplain h => ?_⟩
  · exact Prepared.same_refl p.2.2
  · exact Prepared.same_symm q.2.2 p.2.2 h
  · exact Prepared.same_trans p.2.2 q.2.2 hpq hqr
  · exact ⟨Prepared.eval_eq_of_same hp hq hplain h, Prepared.validateFor_eq_of_same hp hq hplain h⟩

/-- The source of the pattern is made with a pattern itself, and has a decimal in it, once given by
its bits and once by its sign and magnitude. Both trees act like the expression with the bits. -/
theorem same_trees_act_alike_nested_pattern :
    let text (s : String) := Expr.literal (.present (.string s))
    let tree (d : Decimal) :=
      Expr.test .fullMatch (.attr "a") (.pattern true)
        (.replace (.convert .string (.literal (.present (.decimal d))) none) (.pattern false)
          (text "5+") (text "[0-9]"))
    let e := tree ⟨0x3FF8000000000000⟩
    let p := e.prepare
    let q := (tree (.ofMagnitude false (1023 <<< 52 + 1 <<< 51))).prepare
    (p.made?.isSome ∧ p.Built ∧ q.Built ∧ p.expr.PlainDecimals ∧ p.same q = true) ∧
      (∀ env, eval env e = p.eval env ∧ p.eval env = q.eval env) ∧
      ∀ required, validateFor e required = p.validateFor required ∧
        p.validateFor required = q.validateFor required := by
  intro text tree e p q
  have hp : p.Built := e.built_prepare
  have hq : q.Built := Expr.built_prepare _
  have hplain : p.expr.PlainDecimals := by
    rw [Expr.expr_prepare]
    intro d hd
    obtain rfl : d = ⟨0x3FF8000000000000⟩ := by
      simpa [e, tree, text, Expr.nodes_eq, Expr.operands] using hd
    decide
  have hs : p.same q = true := by
    rw [Prepared.same, Expr.expr_prepare, Expr.expr_prepare]
    decide
  obtain ⟨heval, hissues⟩ := same_trees_act_alike.2 p q hp hq hplain hs
  exact ⟨⟨rfl, hp, hq, hplain, hs⟩, fun env => ⟨(e.eval_prepare env).symm, heval env⟩,
    fun required => ⟨(e.validateFor_prepare required).symm, hissues required⟩⟩

/-- A tree that holds what was made of another pattern was not built. It is the same as the one that
was, and another result comes of it. -/
example :
    let text (s : String) := Prepared.literal (.present (.string s))
    let built := Prepared.test .find (text "a") (.ofSource (text "a") false) (text "a")
    let forged :=
      Prepared.test .find (text "a") (.pattern false (some (compilePattern "b" false))) (text "a")
    forged.same built = true ∧ built.eval .constant = .ok (.present (.boolean true)) ∧
      forged.eval .constant = .ok (.present (.boolean false)) :=
  ⟨rfl, rfl, rfl⟩

end RecordExpr
