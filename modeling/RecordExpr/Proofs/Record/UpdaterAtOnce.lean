import RecordExpr.Proofs.Eval.Inputs
import RecordExpr.Proofs.Record.UpdaterEffect

/-!
# Variables that do not build on each other

A variable sees the new texts of those before it only if its expression names them. In an updater
where none does (`Updater.Independent`) the order of the variables does not matter, except that it
decides which error is reported: all texts are those that the expressions have in the state before
the update, as if the variables were updated at once (`Updater.apply_of_independent`). That an
expression cannot tell apart two states that agree on the names in it is `eval_eq_of_names`.
-/

namespace RecordExpr.Updater

variable {u : Updater} {state next : State} {record : Lookup} {now : Instant} {e : Expr}
  {v : String × Expr} {vs earlier later : List (String × Expr)}

/-- No variable names another one whose turn comes before its own. -/
def Independent (u : Updater) : Prop :=
  ∀ v ∈ u.vars.entries, ∀ w ∈ u.vars.entries, w.1 < v.1 → .attr w.1 ∉ v.2.nodes

/-! ### What is seen -/

/-- A state can only be told from another one by a name in the expression. -/
theorem textWith_over_congr {lookup₁ lookup₂ : Lookup}
    (h : ∀ name, .attr name ∈ e.nodes → lookup₁ name = lookup₂ name) :
    u.textWith (.over lookup₁ record) now e = u.textWith (.over lookup₂ record) now e := by
  have hover : ∀ name, .attr name ∈ e.nodes →
      Lookup.over lookup₁ record name = Lookup.over lookup₂ record name := by
    intro name hn
    rw [Lookup.over, Lookup.over, h name hn]
  rw [textWith, textWith, eval_eq_of_names hover fun _ => rfl]

/-- Variables that an expression does not name may have been worked on already. -/
theorem textWith_of_foldlM (hs : vs.Pairwise (fun v w => v.1 < w.1))
    (h : vs.foldlM (u.stepVariable record now) state = .ok next)
    (hn : ∀ v ∈ vs, .attr v.1 ∉ e.nodes) :
    u.textWith (.over next.get? record) now e = u.textWith (.over state.get? record) now e := by
  obtain ⟨hothers, _⟩ := (foldlM_stepVariable_eq_ok_iff hs).mp h
  refine textWith_over_congr fun name hname => hothers name fun hmem => ?_
  obtain ⟨v, hv, rfl⟩ := List.mem_map.mp hmem
  exact hn v hv hname

/-! ### The loop -/

/-- If every variable has a text in the state before them, all can be worked on. -/
theorem exists_foldlM_of_independent (hs : vs.Pairwise (fun v w => v.1 < w.1))
    (hi : vs.Pairwise (fun v w => .attr v.1 ∉ w.2.nodes))
    (hok : ∀ v ∈ vs, ∃ text?, u.textWith (.over state.get? record) now v.2 = .ok text?) :
    ∃ next, vs.foldlM (u.stepVariable record now) state = .ok next := by
  induction vs generalizing state with
  | nil => exact ⟨state, rfl⟩
  | cons v vs ih =>
    obtain ⟨hv, hok⟩ := List.forall_mem_cons.mp hok
    obtain ⟨text?, htext⟩ := hv
    have hstep : u.stepVariable record now state v = .ok (state.put v.1 text?) :=
      stepVariable_eq_ok_iff.mpr ⟨text?, htext, rfl⟩
    -- the variables after the first one cannot tell that it has changed
    have hsame : ∀ w ∈ vs, u.textWith (.over (state.put v.1 text?).get? record) now w.2 =
        u.textWith (.over state.get? record) now w.2 := by
      intro w hw
      refine textWith_over_congr fun name hname => ?_
      have hne : name ≠ v.1 := by
        rintro rfl
        exact (List.pairwise_cons.mp hi).1 w hw hname
      rw [Dictionary.get?_put, if_neg hne]
    obtain ⟨next, hnext⟩ := ih (List.pairwise_cons.mp hs).2 (List.pairwise_cons.mp hi).2
      fun w hw => by
        rw [hsame w hw]
        exact hok w hw
    refine ⟨next, ?_⟩
    rw [List.foldlM_cons, hstep]
    exact hnext

namespace Independent

variable (h : u.Independent)

include h

theorem pairwise : u.vars.entries.Pairwise (fun v w => .attr v.1 ∉ w.2.nodes) :=
  u.vars.sorted.imp_of_mem fun hv hw hlt => h _ hw _ hv hlt

/-- What a variable sees is as good as the state before the update. -/
theorem textWith_seenBy (hv : v ∈ u.vars.entries)
    (hothers : ∀ name ∉ u.vars.names, next.get? name = state.get? name) :
    u.textWith (.over (seenBy v.1 state next) record) now v.2 =
      u.textWith (.over state.get? record) now v.2 := by
  refine textWith_over_congr fun name hname => ?_
  unfold seenBy
  split
  · next hlt =>
    refine hothers name fun hmem => ?_
    obtain ⟨w, hw, rfl⟩ := List.mem_map.mp hmem
    exact h v hv w hw hlt hname
  · rfl

end Independent

/-! ### The whole update -/

/-- The first variable that fails gives its error to the whole. -/
theorem apply_of_first_failing (h : u.Independent) (hsplit : u.vars.entries = earlier ++ v :: later)
    (hok : ∀ w ∈ earlier, ∃ text?, u.textWith (.over state.get? record) now w.2 = .ok text?)
    {err : EvalError} (hv : u.textWith (.over state.get? record) now v.2 = .error err) :
    u.apply state record now = .error (.evaluation (.var v.1) err) := by
  have hsorted : (earlier ++ v :: later).Pairwise (fun v w => v.1 < w.1) :=
    hsplit ▸ u.vars.sorted
  have hpairwise : (earlier ++ v :: later).Pairwise (fun v w => .attr v.1 ∉ w.2.nodes) :=
    hsplit ▸ h.pairwise
  obtain ⟨hs, _, _⟩ := List.pairwise_append.mp hsorted
  obtain ⟨hi, _, hnames⟩ := List.pairwise_append.mp hpairwise
  obtain ⟨left, hleft⟩ := exists_foldlM_of_independent hs hi hok
  have hstep : u.stepVariable record now left v = .error (.evaluation (.var v.1) err) := by
    rw [stepVariable_eq, textFor_eq,
      textWith_of_foldlM hs hleft fun w hw => hnames w hw v (List.mem_cons_self ..), hv]
    rfl
  rw [apply, hsplit, List.foldlM_append, hleft]
  show (List.foldlM _ left (v :: later) >>= _) = _
  rw [List.foldlM_cons, hstep]
  rfl

/-- Variables that do not name those before them are updated at once: each gets the text, or is gone
by the absence, that its expression has in the state before the update. If some expression fails
there, the first one that does fails the update; otherwise only the value can still fail. -/
theorem apply_of_independent (h : u.Independent) (state : State) (record : Lookup) (now : Instant) :
    (∀ earlier v later err, u.vars.entries = earlier ++ v :: later →
      (∀ w ∈ earlier, ∃ text?, u.textWith (.over state.get? record) now w.2 = .ok text?) →
      u.textWith (.over state.get? record) now v.2 = .error err →
        u.apply state record now = .error (.evaluation (.var v.1) err)) ∧
    ((∀ v ∈ u.vars.entries,
        ∃ text?, u.textWith (.over state.get? record) now v.2 = .ok text?) →
      ∃ next : State,
        (∀ v ∈ u.vars.entries,
          u.textWith (.over state.get? record) now v.2 = .ok (next.get? v.1)) ∧
        (∀ name ∉ u.vars.names, next.get? name = state.get? name) ∧
        u.apply state record now = do
          let value ← u.textFor next record now (.attr u.target) u.value
          return (⟨u.target, value⟩, next)) := by
  refine ⟨fun earlier v later err hsplit hok hv => apply_of_first_failing h hsplit hok hv,
    fun hok => ?_⟩
  obtain ⟨next, hnext⟩ := exists_foldlM_of_independent u.vars.sorted h.pairwise hok
  obtain ⟨hothers, hvars⟩ := (foldlM_stepVariable_eq_ok_iff u.vars.sorted).mp hnext
  refine ⟨next, fun v hv => ?_, hothers, ?_⟩
  · -- what the others leave does not show, since no variable reads an earlier one
    rw [← h.textWith_seenBy hv hothers]
    exact hvars v hv
  · rw [apply, hnext]
    rfl

/-- The first variable takes over the old text of the second one, which is gone after its turn. With
another record the two last variables have no text, and the update fails at the first of them. -/
theorem apply_of_independent_two_failing :
    let u : Updater := ⟨"t", .attr "a",
      (((Dictionary.empty.insert "a" (.attr "b")).insert "b" (.literal (.absent .string))).insert
        "p" (.convert .boolean (.attr "x") none)).insert "q" (.convert .boolean (.attr "y") none),
      .default⟩
    let state : State := (Dictionary.empty.insert "a" "1").insert "b" "2"
    let good : Lookup := fun _ => some "TRUE"
    let bad : Lookup := fun name => some name
    u.Independent ∧
      (∃ next : State, next.get? "a" = some "2" ∧ next.get? "b" = none ∧
        next.get? "q" = some "true" ∧ u.apply state good .epoch = .ok (⟨"t", some "2"⟩, next)) ∧
      u.apply state bad .epoch =
        .error (.evaluation (.var "p") (.coercionFailed "x" .boolean)) := by
  intro u state good bad
  have hi : u.Independent := by
    intro v hv w hw hlt hmem
    have hnames : w.1 = "a" ∨ w.1 = "b" ∨ w.1 = "p" ∨ w.1 = "q" := by
      have hw : w.1 ∈ ["a", "b", "p", "q"] := List.mem_map_of_mem hw
      simpa using hw
    have hread : .attr w.1 ∈ v.2.nodes → w.1 = "x" ∨ w.1 = "y" ∨ (w.1 = "b" ∧ v.1 = "a") := by
      have hv : v ∈ [("a", .attr "b"), ("b", .literal (.absent .string)),
        ("p", .convert .boolean (.attr "x") none), ("q", .convert .boolean (.attr "y") none)] := hv
      simp only [List.mem_cons, List.not_mem_nil, or_false] at hv
      rcases hv with rfl | rfl | rfl | rfl <;> simp +contextual [Expr.nodes_eq, Expr.operands]
    rcases hread hmem with h | h | ⟨hb, ha⟩
    · rw [h] at hnames
      exact absurd hnames (by decide)
    · rw [h] at hnames
      exact absurd hnames (by decide)
    · rw [hb, ha] at hlt
      exact absurd hlt (by decide)
  obtain ⟨_, hgood⟩ := apply_of_independent hi state good .epoch
  obtain ⟨hbad, _⟩ := apply_of_independent hi state bad .epoch
  have htexts : ∀ v ∈ u.vars.entries,
      ∃ text?, u.textWith (.over state.get? good) .epoch v.2 = .ok text? :=
    List.forall_mem_cons.mpr ⟨⟨_, rfl⟩, List.forall_mem_cons.mpr ⟨⟨_, rfl⟩,
      List.forall_mem_cons.mpr ⟨⟨_, rfl⟩, List.forall_mem_cons.mpr ⟨⟨_, rfl⟩, by simp⟩⟩⟩⟩
  have hsplit : u.vars.entries = [("a", .attr "b"), ("b", .literal (.absent .string))] ++
      ("p", .convert .boolean (.attr "x") none) :: [("q", .convert .boolean (.attr "y") none)] :=
    rfl
  have hfirst : ∀ v ∈ [("a", Expr.attr "b"), ("b", .literal (.absent .string))],
      ∃ text?, u.textWith (.over state.get? bad) .epoch v.2 = .ok text? :=
    List.forall_mem_cons.mpr ⟨⟨_, rfl⟩, List.forall_mem_cons.mpr ⟨⟨_, rfl⟩, by simp⟩⟩
  refine ⟨hi, ?_, hbad _ _ _ _ hsplit hfirst rfl⟩
  obtain ⟨next, hvars, _, happly⟩ := hgood htexts
  obtain ⟨ha, hvars⟩ := List.forall_mem_cons.mp hvars
  obtain ⟨hb, hvars⟩ := List.forall_mem_cons.mp hvars
  obtain ⟨_, hvars⟩ := List.forall_mem_cons.mp hvars
  obtain ⟨hq, _⟩ := List.forall_mem_cons.mp hvars
  have ha : some "2" = next.get? "a" := Except.ok.inj ha
  have hb : none = next.get? "b" := Except.ok.inj hb
  have hq : some "true" = next.get? "q" := Except.ok.inj hq
  refine ⟨next, ha.symm, hb.symm, hq.symm, ?_⟩
  have hvalue : u.textFor next good .epoch (.attr "t") u.value = .ok (some "2") := by
    show orFailure _
      (Result.render _ (.ofOption .string ((Lookup.over next.get? good "a").map _))) = _
    rw [Lookup.over, ← ha]
    rfl
  rw [happly, hvalue]
  rfl

end RecordExpr.Updater
