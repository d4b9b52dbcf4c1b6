import Mathlib.Algebra.Ring.Nat
import Mathlib.Data.List.Forall2
import RecordExpr.Proofs.Eval.Agreement

/-!
# Concatenation

Each operand of a concatenation adds the text of its result (`pieceOf`), and the pieces are put
together from the left until one of them is absent or an error (`followedBy`). Putting together is
associative and the empty text is neutral to it, so operands after one another come to what the
first ones come to, followed by the others (`evalConcat_append`), and brackets among operands do
not matter.

An operand and its conversion to a text add the same (`pieceOf_convert`), and where all texts are
there they stand one after another in the result (`evalConcat_eq_some_iff`).

The main statement is `concat_of_texts`.
-/

namespace RecordExpr

variable {env : Environment} {x : Expr} {xs ys zs : List Expr} {s t : String}
  {o p q : Except EvalError (Option String)}

/-! ### Texts one after another -/

/-- The first text and the second, which is not made if the first is absent. -/
def followedBy (o p : Except EvalError (Option String)) : Except EvalError (Option String) :=
  o >>= fun
    | none => .ok none
    | some s => p >>= fun rest => .ok (rest.map (s ++ ·))

theorem some_followedBy : followedBy (.ok (some s)) p = p >>= fun rest => .ok (rest.map (s ++ ·)) :=
  rfl

/-- The empty text is neutral on the left, and on the right as well. -/
theorem empty_followedBy (p : Except EvalError (Option String)) :
    followedBy (.ok (some "")) p = p := by
  rw [some_followedBy]
  refine (bind_congr fun rest => ?_).trans (bind_pure p)
  cases rest <;> simp [pure, Except.pure]

theorem followedBy_empty (o : Except EvalError (Option String)) :
    followedBy o (.ok (some "")) = o := by
  refine (bind_congr fun s => ?_).trans (bind_pure o)
  cases s <;> simp [bind, Except.bind, pure, Except.pure]

/-- Texts are put together in any order of grouping, absence and errors included. -/
theorem followedBy_assoc (o p q : Except EvalError (Option String)) :
    followedBy (followedBy o p) q = followedBy o (followedBy p q) := by
  unfold followedBy
  rw [bind_assoc]
  refine bind_congr fun s? => ?_
  cases s? with
  | none => rfl
  | some s =>
    simp only [bind_assoc]
    refine bind_congr fun t? => ?_
    cases t? with
    | none => rfl
    | some t =>
      simp only [bind_assoc]
      show (q >>= fun rest => _) = (q >>= fun rest => _)
      refine bind_congr fun rest => ?_
      cases rest <;> simp [bind, Except.bind, String.append_assoc]

/-- There is a text in the end if both parts are there. -/
theorem followedBy_eq_some_iff : followedBy o p = .ok (some s) ↔
    ∃ t rest, o = .ok (some t) ∧ p = .ok (some rest) ∧ s = t ++ rest := by
  rcases o with err | _ | t
  · simp [followedBy, bind, Except.bind]
  · simp [followedBy, bind, Except.bind]
  · rw [some_followedBy]
    rcases p with err | _ | rest <;> simp [bind, Except.bind, eq_comm]

/-! ### Pieces -/

/-- What an operand adds to a concatenation: the text of its result. -/
def pieceOf (env : Environment) (x : Expr) : Except EvalError (Option String) :=
  eval env x >>= (·.render env.config.dateFormat)

/-- A concatenation is its first piece, followed by the rest. -/
theorem evalConcat_cons_pieceOf (x : Expr) (xs : List Expr) :
    evalConcat env (x :: xs) = followedBy (pieceOf env x) (evalConcat env xs) := by
  rw [evalConcat_cons, valueOf, pieceOf, followedBy, bind_assoc, bind_assoc]
  refine bind_congr fun r => ?_
  cases r with
  | absent k => rfl
  | present v =>
    show v.render _ >>= _ = (v.render _ >>= _) >>= _
    rw [bind_assoc]
    rfl

/-- It may be cut in two at any place. -/
theorem evalConcat_append (xs ys : List Expr) :
    evalConcat env (xs ++ ys) = followedBy (evalConcat env xs) (evalConcat env ys) := by
  induction xs with
  | nil => exact (empty_followedBy _).symm
  | cons x xs ih =>
    rw [List.cons_append, evalConcat_cons_pieceOf, evalConcat_cons_pieceOf, ih, followedBy_assoc]

theorem evalConcat_singleton (x : Expr) : evalConcat env [x] = pieceOf env x := by
  rw [evalConcat_cons_pieceOf]
  exact followedBy_empty _

/-- A concatenation adds the pieces of its operands. -/
theorem pieceOf_concat (ys : List Expr) : pieceOf env (.concat ys) = evalConcat env ys := by
  rw [pieceOf, eval_concat, whenPresent, bind_assoc]
  refine (bind_congr fun s? => ?_).trans (bind_pure _)
  cases s? <;> rfl

/-- The conversion of an operand to a text adds what the operand adds. -/
theorem pieceOf_convert (x : Expr) : pieceOf env (.convert .string x none) = pieceOf env x := by
  rw [pieceOf, eval_convert, whenPresent, valueOf, pieceOf, bind_assoc, bind_assoc]
  refine bind_congr fun r => ?_
  cases r with
  | absent k => rfl
  | present v =>
    show (v.convert _ _ .string >>= _) >>= _ = v.render _ >>= _
    rw [Value.convert_string, bind_assoc, bind_assoc]
    rfl

/-- What an operand adds is there just if it can be converted to a text, and is that text. -/
theorem pieceOf_eq_some_iff : pieceOf env x = .ok (some t) ↔
    eval env (.convert .string x none) = .ok (.present (.string t)) := by
  rw [← pieceOf_convert, pieceOf, bind_eq_ok_iff]
  constructor
  · rintro ⟨r, hr, ht⟩
    have hk : r.kind = .string := kind_of_eval hr
    cases r with
    | absent k => cases ht
    | present v =>
      cases v with
      | string s =>
        cases ht
        exact hr
      | _ => cases hk
  · intro h
    exact ⟨_, h, rfl⟩

/-- Operands may as well be converted to strings beforehand. -/
theorem evalConcat_map_convert (xs : List Expr) :
    evalConcat env (xs.map (.convert .string · none)) = evalConcat env xs := by
  induction xs with
  | nil => rfl
  | cons x xs ih =>
    rw [List.map_cons, evalConcat_cons_pieceOf, evalConcat_cons_pieceOf, pieceOf_convert, ih]

/-! ### Concatenations -/

theorem eval_concat_congr (h : evalConcat env xs = evalConcat env ys) :
    eval env (.concat xs) = eval env (.concat ys) := by
  rw [eval_concat, eval_concat, h]

theorem eval_concat_eq_present_iff :
    eval env (.concat xs) = .ok (.present (.string s)) ↔ evalConcat env xs = .ok (some s) := by
  rw [eval_concat]
  rcases evalConcat env xs with err | _ | t <;> simp

/-- What some expressions come to if they are converted to texts. -/
abbrev TextsOf (env : Environment) (xs : List Expr) (texts : List String) : Prop :=
  List.Forall₂ (fun x t => eval env (.convert .string x none) = .ok (.present (.string t))) xs texts

/-- The result is the texts of all operands in order. -/
theorem evalConcat_eq_some_iff :
    evalConcat env xs = .ok (some s) ↔ ∃ texts, TextsOf env xs texts ∧ s = String.join texts := by
  induction xs generalizing s with
  | nil => simp [evalConcat, TextsOf, eq_comm]
  | cons x xs ih =>
    simp only [evalConcat_cons_pieceOf, followedBy_eq_some_iff, ih, pieceOf_eq_some_iff]
    constructor
    · rintro ⟨t, _, ht, ⟨texts, htexts, rfl⟩, rfl⟩
      exact ⟨t :: texts, .cons ht htexts, String.join_cons.symm⟩
    · rintro ⟨_, hall, rfl⟩
      obtain ⟨t, texts, ht, htexts, rfl⟩ := List.forall₂_cons_left_iff.mp hall
      exact ⟨t, _, ht, ⟨texts, htexts, rfl⟩, String.join_cons⟩

/-- A concatenation among the operands of another one can be replaced by its operands, and operands
can be converted to texts beforehand, errors and absence included. A concatenation is present just
if all of these texts are, and then it is the texts one after another, so that their lengths make
up its length. -/
theorem concat_of_texts (env : Environment) (xs ys zs : List Expr) :
    eval env (.concat (xs ++ [.concat ys] ++ zs)) = eval env (.concat (xs ++ ys ++ zs)) ∧
    eval env (.concat xs) = eval env (.concat (xs.map (.convert .string · none))) ∧
    (∀ s, eval env (.concat xs) = .ok (.present (.string s)) ↔
      ∃ texts, TextsOf env xs texts ∧ s = String.join texts) ∧
    ∀ texts, TextsOf env xs texts → ∃ s, eval env (.concat xs) = .ok (.present (.string s)) ∧
      s.length = (texts.map String.length).sum := by
  have hpresent (s : String) : eval env (.concat xs) = .ok (.present (.string s)) ↔
      ∃ texts, TextsOf env xs texts ∧ s = String.join texts := by
    rw [eval_concat_eq_present_iff, evalConcat_eq_some_iff]
  refine ⟨?_, ?_, hpresent, fun texts htexts => ⟨String.join texts, ?_, String.length_join⟩⟩
  · refine eval_concat_congr ?_
    simp only [evalConcat_append, evalConcat_singleton, pieceOf_concat]
  · exact (eval_concat_congr (evalConcat_map_convert xs)).symm
  · exact (hpresent _).mpr ⟨texts, htexts, rfl⟩

/-- A text, a truth and a number, whose texts have one, four and three characters. -/
theorem concat_of_texts_three_kinds :
    let literal (v : Value) := Expr.literal (.present v)
    let n : WholeNumber := ⟨-12, by decide, by decide⟩
    let xs := [literal (.string "é"), literal (.boolean true), literal (.wholeNumber n)]
    TextsOf .constant xs ["é", "true", "-12"] ∧
    eval .constant (.concat xs) = .ok (.present (.string "étrue-12")) ∧
    ∃ s, eval .constant (.concat xs) = .ok (.present (.string s)) ∧ s.length = 8 := by
  intro literal n xs
  have hn : eval .constant (.convert .string (literal (.wholeNumber n)) none) =
      .ok (.present (.string "-12")) := by decide +kernel
  have htexts : TextsOf .constant xs ["é", "true", "-12"] := .cons rfl (.cons rfl (.cons hn .nil))
  obtain ⟨-, -, hpresent, hlength⟩ := concat_of_texts .constant xs [] []
  exact ⟨htexts, (hpresent _).mpr ⟨_, htexts, by decide⟩, hlength _ htexts⟩

end RecordExpr
