import Mathlib.Data.List.Induction
import RecordExpr.Proofs.Dictionary.Halving
import RecordExpr.Proofs.Outcome
import RecordExpr.Record.Updater

/-!
# The variables of an updater

An updater gets its variables one after another, in any order and some of them more than once. What
it keeps is the last expression for each name (`lastGiven`), in the order of the names. What one
call does to the variables that are there (`withVariable_eq_ok_iff`) leads to what all of them do,
by induction from the first call to the last (`withVariables_induction`, `get?_of_withVariables`).
It is what halving does to the list of the variables, which is right because the list is sorted
before every call (`entries_of_withVariables`).

So the order of the calls is not seen afterwards: updaters with the same last expressions are the
same (`vars_of_withVariables`).
-/

namespace RecordExpr.Updater

variable {u v w : Updater} {name : String} {e : Expr} {defs : List (String × Expr)}

/-- The updater with some variables, given one after another. -/
def withVariables (u : Updater) (defs : List (String × Expr)) : Except Failure Updater :=
  defs.foldlM (fun u d => u.withVariable d.1 d.2) u

/-- The expression that is given for a name, the last one if there are several. -/
def lastGiven (defs : List (String × Expr)) (name : String) : Option Expr :=
  defs.reverse.lookup name

/-! ### One variable -/

theorem withVariable_eq_ok_iff :
    u.withVariable name e = .ok v ↔
      hasErrors (validate e) = false ∧ v = { u with vars := u.vars.insert name e } := by
  rw [withVariable, bind_eq_ok_iff]
  constructor
  · rintro ⟨_, hvalid, ⟨⟩⟩
    exact ⟨requireValid_eq_ok_iff.mp hvalid, rfl⟩
  · rintro ⟨hvalid, rfl⟩
    exact ⟨(), requireValid_eq_ok_iff.mpr hvalid, rfl⟩

theorem lastGiven_append (defs : List (String × Expr)) (d : String × Expr) (name : String) :
    lastGiven (defs ++ [d]) name = if name = d.1 then some d.2 else lastGiven defs name := by
  rw [lastGiven, List.reverse_append, List.reverse_singleton, List.singleton_append,
    List.lookup_cons]
  by_cases h : name = d.1
  · rw [beq_iff_eq.mpr h, if_pos h]
  · rw [beq_eq_false_iff_ne.mpr h, if_neg h]
    rfl

theorem isSome_lastGiven_iff : (lastGiven defs name).isSome ↔ name ∈ defs.map (·.1) := by
  rw [lastGiven, List.lookup_isSome_iff, List.mem_map]
  constructor
  · rintro ⟨d, hd, hname⟩
    exact ⟨d, List.mem_reverse.mp hd, (eq_of_beq hname).symm⟩
  · rintro ⟨d, hd, rfl⟩
    exact ⟨d, List.mem_reverse.mpr hd, BEq.rfl⟩

/-! ### All variables -/

/-- The last call inserts its variable into what the calls before it have made. -/
theorem withVariables_append_eq_ok_iff {d : String × Expr} :
    u.withVariables (defs ++ [d]) = .ok v ↔
      ∃ w, u.withVariables defs = .ok w ∧ hasErrors (validate d.2) = false ∧
        v = { w with vars := w.vars.insert d.1 d.2 } := by
  have hlast : u.withVariables (defs ++ [d]) =
      u.withVariables defs >>= fun w => w.withVariable d.1 d.2 := by
    rw [withVariables, List.foldlM_append]
    refine bind_congr fun w => ?_
    rw [List.foldlM_cons]
    exact bind_pure _
  rw [hlast, bind_eq_ok_iff]
  simp only [withVariable_eq_ok_iff, withVariables]

/-- What holds before the first call, and after a call whenever it held before it, holds after all
calls that succeed. -/
theorem withVariables_induction {motive : List (String × Expr) → Updater → Prop}
    (nil : motive [] u)
    (append : ∀ defs d w, motive defs w →
      motive (defs ++ [d]) { w with vars := w.vars.insert d.1 d.2 })
    (h : u.withVariables defs = .ok v) : motive defs v := by
  induction defs using List.reverseRecOn generalizing v with
  | nil =>
    cases h
    exact nil
  | append_singleton defs d ih =>
    obtain ⟨w, hw, -, rfl⟩ := withVariables_append_eq_ok_iff.mp h
    exact append defs d w (ih hw)

/-- Nothing but the variables changes. -/
theorem eq_of_withVariables (h : u.withVariables defs = .ok v) : v = { u with vars := v.vars } := by
  refine withVariables_induction (motive := fun _ v => v = { u with vars := v.vars }) rfl ?_ h
  intro defs d w ih
  rw [ih]

/-- Every call puts its variable at the place that is found by halving. -/
theorem entries_of_withVariables (h : u.withVariables defs = .ok v) :
    v.vars.entries = defs.foldl (fun es d => Dictionary.store es d.1 d.2) u.vars.entries := by
  refine withVariables_induction (motive := fun defs v => v.vars.entries =
    defs.foldl (fun es d => Dictionary.store es d.1 d.2) u.vars.entries) rfl ?_ h
  intro defs d w ih
  rw [List.foldl_append, ← ih]
  -- the list was sorted before the call
  exact (Dictionary.store_eq_insertEntry w.vars.sorted d.1 d.2).symm

theorem get?_of_withVariables (h : u.withVariables defs = .ok v) (name : String) :
    v.vars.get? name = (lastGiven defs name).or (u.vars.get? name) := by
  refine withVariables_induction (motive := fun defs v =>
    v.vars.get? name = (lastGiven defs name).or (u.vars.get? name)) rfl ?_ h
  intro defs d w ih
  rw [Dictionary.get?_insert, ih, lastGiven_append]
  split <;> rfl

/-! ### From a new updater -/

theorem vars_of_new {target : String} {value : Expr} {config : Config}
    (h : new target value config = .ok u) : u.vars = .empty := by
  obtain ⟨_, _, ⟨⟩⟩ := bind_eq_ok_iff.mp h
  rfl

/-- Updaters with the same last expressions are the same. -/
theorem eq_of_lastGiven {defs' : List (String × Expr)} (hv : u.withVariables defs = .ok v)
    (hw : u.withVariables defs' = .ok w)
    (hsame : ∀ name, lastGiven defs name = lastGiven defs' name) : v = w := by
  have hvars : v.vars = w.vars := Dictionary.ext_get? fun name => by
    rw [get?_of_withVariables hv, get?_of_withVariables hw, hsame]
  rw [eq_of_withVariables hv, eq_of_withVariables hw, hvars]

/-- After some variables have been given to a new updater, it has a list of them that halving has
made. The list is strictly sorted by name, has just the names that have been given, and for each of
them the last expression. So updaters to which the same last expressions have been given, in
whatever calls, have the same variables in the same order, begin with the same state and make the
same updates. -/
theorem vars_of_withVariables {target : String} {value : Expr} {config : Config}
    (hu : new target value config = .ok u) (hv : u.withVariables defs = .ok v) :
    v.vars.entries = defs.foldl (fun es d => Dictionary.store es d.1 d.2) [] ∧
    v.vars.entries.Pairwise (fun a b => a.1 < b.1) ∧
    (∀ name, name ∈ v.vars.names ↔ name ∈ defs.map (·.1)) ∧
    (∀ name e, (name, e) ∈ v.vars.entries ↔ lastGiven defs name = some e) ∧
    ∀ defs' w, u.withVariables defs' = .ok w →
      (∀ name, lastGiven defs name = lastGiven defs' name) →
        v.vars.names = w.vars.names ∧ v.initialState = w.initialState ∧
          ∀ state record now, v.apply state record now = w.apply state record now := by
  have hempty : u.vars = .empty := vars_of_new hu
  -- nothing was there before the first call
  have hget : ∀ name, v.vars.get? name = lastGiven defs name := by
    intro name
    rw [get?_of_withVariables hv, hempty, Dictionary.get?_empty, Option.or_none]
  refine ⟨?_, v.vars.sorted, fun name => ?_, fun name e => ?_, fun defs' w hw hsame => ?_⟩
  · rw [entries_of_withVariables hv, hempty]
    rfl
  · rw [Dictionary.mem_names_iff, hget, isSome_lastGiven_iff]
  · rw [Dictionary.mem_entries_iff, hget]
  · obtain rfl := eq_of_lastGiven hv hw hsame
    exact ⟨rfl, rfl, fun _ _ _ => rfl⟩

/-- The variable that is given twice has its second expression, and comes last, as if it had been
given once and first. -/
theorem vars_of_withVariables_given_twice :
    let plain : Updater := ⟨"t", .attr "a", .empty, .default⟩
    let defs := [("b", Expr.attr "x"), ("a", .attr "b"), ("b", .attr "y")]
    ∃ v w, plain.withVariables defs = .ok v ∧
      plain.withVariables [("b", .attr "y"), ("a", .attr "b")] = .ok w ∧
      v.vars.entries.Pairwise (fun a b => a.1 < b.1) ∧ ("b", .attr "y") ∈ v.vars.entries ∧
      v.vars.names = w.vars.names ∧ v.initialState = w.initialState := by
  intro plain defs
  have hplain : new "t" (.attr "a") .default = .ok plain := rfl
  let first : Dictionary Expr := .insert .empty "b" (.attr "x")
  have hv : plain.withVariables defs =
      .ok { plain with vars := (first.insert "a" (.attr "b")).insert "b" (.attr "y") } := rfl
  let once : Dictionary Expr := .insert .empty "b" (.attr "y")
  have hw : plain.withVariables [("b", .attr "y"), ("a", .attr "b")] =
      .ok { plain with vars := once.insert "a" (.attr "b") } := rfl
  obtain ⟨_, hsorted, _, hlast, hsame⟩ := vars_of_withVariables hplain hv
  obtain ⟨hnames, hstate, _⟩ := hsame _ _ hw fun name => by
    show List.lookup name [("b", Expr.attr "y"), ("a", .attr "b"), ("b", .attr "x")] =
      List.lookup name [("a", Expr.attr "b"), ("b", .attr "y")]
    by_cases ha : name = "a"
    · subst ha
      rfl
    · by_cases hb : name = "b"
      · subst hb
        rfl
      · simp [List.lookup_cons, beq_eq_false_iff_ne.mpr ha, beq_eq_false_iff_ne.mpr hb]
  exact ⟨_, _, hv, hw, hsorted, (hlast "b" _).mpr rfl, hnames, hstate⟩

end RecordExpr.Updater
