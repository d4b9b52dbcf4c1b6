import RecordExpr.Proofs.Outcome
import RecordExpr.Record.Updater

/-!
# The effect of an update

An updater works on its variables one after another, in the order of their names. When the turn of a
variable comes, the names before its own have their new texts, and all the others still have what
they had before (`seenBy`). This is the invariant of the loop, and it tells what each expression has
seen from nothing but the state before the update and the state after it
(`Updater.foldlM_stepVariable_eq_ok_iff`). So a successful update can be described without the loop:
`Updater.Effect` says what the new state and the written value are, and `Updater.apply_effect` that
an update succeeds with just these.
-/

namespace RecordExpr

/-! ### Changing one name -/

/-- The dictionary with another value for a name, or without the name. -/
def Dictionary.put {α : Type} (d : Dictionary α) (name : String) : Option α → Dictionary α
  | some value => d.insert name value
  | none => d.erase name

@[simp]
theorem Dictionary.get?_put {α : Type} (d : Dictionary α) (name : String) (value? : Option α)
    (other : String) :
    (d.put name value?).get? other = if other = name then value? else d.get? other := by
  cases value? with
  | none => exact d.get?_erase name other
  | some value => exact d.get?_insert name value other

theorem orFailure_eq_ok_iff {α : Type} {failure : EvalError → Failure} {x : Except EvalError α}
    {a : α} : orFailure failure x = .ok a ↔ x = .ok a := by
  cases x <;> simp [orFailure]

/-- What the variable `name` sees of a state that becomes `next`: the names before its own have
changed already. -/
def seenBy (name : String) (state next : State) : Lookup := fun other =>
  if other < name then next.get? other else state.get? other

/-- Where nothing changes before a name, the state is seen as it was. -/
theorem seenBy_of_unchanged {name : String} {state next : State}
    (h : ∀ other, other < name → next.get? other = state.get? other) :
    seenBy name state next = state.get? := by
  funext other
  unfold seenBy
  split
  · next hlt => exact h other hlt
  · rfl

/-- It makes no difference to later names whether a name has its new text already. -/
theorem seenBy_put {name other : String} (h : name < other) (state next : State) :
    seenBy other (state.put name (next.get? name)) next = seenBy other state next := by
  funext third
  unfold seenBy
  split
  · rfl
  · next hge =>
    have hne : third ≠ name := by
      rintro rfl
      exact hge h
    rw [Dictionary.get?_put, if_neg hne]

namespace Updater

variable {u : Updater} {state next : State} {record : Lookup} {now : Instant} {update : Update}
  {v : String × Expr} {vs earlier later : List (String × Expr)}

/-- The text of an expression where `lookup` gives the attributes; none if the result is absent. -/
def textWith (u : Updater) (lookup : Lookup) (now : Instant) (e : Expr) :
    Except EvalError (Option String) := do
  (← eval ⟨lookup, now, u.config⟩ e).render u.config.dateFormat

/-! ### One variable -/

theorem textFor_eq (u : Updater) (state : State) (record : Lookup) (now : Instant)
    (purpose : Purpose) (e : Expr) :
    u.textFor state record now purpose e =
      orFailure (.evaluation purpose) (u.textWith (.over state.get? record) now e) := rfl

theorem stepVariable_eq (u : Updater) (record : Lookup) (now : Instant) (state : State)
    (v : String × Expr) :
    u.stepVariable record now state v =
      u.textFor state record now (.var v.1) v.2 >>= fun text? => .ok (state.put v.1 text?) := by
  refine bind_congr fun text? => ?_
  cases text? <;> rfl

theorem stepVariable_eq_ok_iff :
    u.stepVariable record now state v = .ok next ↔
      ∃ text?, u.textWith (.over state.get? record) now v.2 = .ok text? ∧
        state.put v.1 text? = next := by
  simp only [stepVariable_eq, bind_eq_ok_iff, textFor_eq, orFailure_eq_ok_iff, Except.ok.injEq]

/-! ### All variables -/

theorem not_mem_names_of_forall_lt {name : String} (h : ∀ w ∈ vs, name < w.1) {other : String}
    (hle : ¬ name < other) : other ∉ vs.map (·.1) := by
  intro hn
  obtain ⟨w, hw, rfl⟩ := List.mem_map.mp hn
  exact hle (h w hw)

/-- No variable from one on has a name before that of this one. -/
theorem not_mem_names_cons_of_lt (h : ∀ w ∈ vs, v.1 < w.1) {other : String} (ho : other < v.1) :
    other ∉ (v :: vs).map (·.1) := by
  rw [List.map_cons, List.mem_cons, not_or]
  exact ⟨fun heq => String.lt_irrefl _ (heq ▸ ho),
    not_mem_names_of_forall_lt h (String.lt_asymm ho)⟩

/-- The variables lead from one state to another just if nothing but their names changes, and each
gets the text that its expression has for what it sees. -/
theorem foldlM_stepVariable_eq_ok_iff (hs : vs.Pairwise (fun v w => v.1 < w.1)) :
    vs.foldlM (u.stepVariable record now) state = .ok next ↔
      (∀ name ∉ vs.map (·.1), next.get? name = state.get? name) ∧
        ∀ v ∈ vs,
          u.textWith (.over (seenBy v.1 state next) record) now v.2 = .ok (next.get? v.1) := by
  induction vs generalizing state with
  | nil =>
    rw [List.foldlM_nil]
    constructor
    · rintro ⟨⟩
      exact ⟨fun _ _ => rfl, fun _ hv => absurd hv List.not_mem_nil⟩
    · rintro ⟨hothers, _⟩
      rw [Dictionary.ext_get? fun name => hothers name List.not_mem_nil]
      rfl
  | cons v vs ih =>
    obtain ⟨hlt, hs⟩ := List.pairwise_cons.mp hs
    have hnot : v.1 ∉ vs.map (·.1) := not_mem_names_of_forall_lt hlt (String.lt_irrefl _)
    -- the first variable sees the state as it was
    have hfirst (hothers : ∀ name ∉ (v :: vs).map (·.1), next.get? name = state.get? name) :
        seenBy v.1 state next = state.get? :=
      seenBy_of_unchanged fun other ho => hothers other (not_mem_names_cons_of_lt hlt ho)
    rw [List.foldlM_cons, bind_eq_ok_iff]
    constructor
    · rintro ⟨middle, hstep, hrest⟩
      obtain ⟨text?, htext, rfl⟩ := stepVariable_eq_ok_iff.mp hstep
      obtain ⟨hothers, hvars⟩ := (ih hs).mp hrest
      obtain rfl : next.get? v.1 = text? := by
        rw [hothers v.1 hnot, Dictionary.get?_put, if_pos rfl]
      have hsame : ∀ name ∉ (v :: vs).map (·.1), next.get? name = state.get? name := by
        intro name hn
        rw [List.map_cons, List.mem_cons, not_or] at hn
        rw [hothers name hn.2, Dictionary.get?_put, if_neg hn.1]
      refine ⟨hsame, List.forall_mem_cons.mpr ⟨?_, fun w hw => ?_⟩⟩
      · rw [hfirst hsame]
        exact htext
      · rw [← seenBy_put (hlt w hw)]
        exact hvars w hw
    · rintro ⟨hothers, hvars⟩
      obtain ⟨hv, hvars⟩ := List.forall_mem_cons.mp hvars
      rw [hfirst hothers] at hv
      refine ⟨_, stepVariable_eq_ok_iff.mpr ⟨_, hv, rfl⟩, (ih hs).mpr ⟨fun name hn => ?_, ?_⟩⟩
      · rw [Dictionary.get?_put]
        split
        · next heq => rw [heq]
        · next hne => exact hothers name (by simpa [hne] using hn)
      · intro w hw
        rw [seenBy_put (hlt w hw)]
        exact hvars w hw

/-! ### The whole update -/

/-- What an update does to a state and a record. -/
structure Effect (u : Updater) (state : State) (record : Lookup) (now : Instant) (update : Update)
    (next : State) : Prop where
  /-- each variable has the text of its expression, or is gone if that is absent -/
  vars : ∀ v ∈ u.vars.entries,
    u.textWith (.over (seenBy v.1 state next) record) now v.2 = .ok (next.get? v.1)
  others : ∀ name ∉ u.vars.names, next.get? name = state.get? name
  target : update.target = u.target
  /-- the value sees the new state only -/
  value : u.textWith (.over next.get? record) now u.value = .ok update.value

theorem apply_eq_ok_iff :
    u.apply state record now = .ok (update, next) ↔ u.Effect state record now update next := by
  rw [apply, bind_eq_ok_iff]
  constructor
  · rintro ⟨middle, hvars, hvalue⟩
    obtain ⟨value, htext, heq⟩ := bind_eq_ok_iff.mp hvalue
    cases heq
    rw [textFor_eq, orFailure_eq_ok_iff] at htext
    obtain ⟨hothers, hvars⟩ := (foldlM_stepVariable_eq_ok_iff u.vars.sorted).mp hvars
    exact ⟨hvars, hothers, rfl, htext⟩
  · intro h
    refine ⟨next, (foldlM_stepVariable_eq_ok_iff u.vars.sorted).mpr ⟨h.others, h.vars⟩, ?_⟩
    rw [textFor_eq, h.value, ← h.target]
    rfl

/-- When the turn of a variable comes, those before it have left the state that it sees. -/
theorem Effect.exists_left (h : u.Effect state record now update next)
    -- a name before that of the variable has been settled, the others are as they were
    (hsplit : u.vars.entries = earlier ++ v :: later) :
    ∃ left, earlier.foldlM (u.stepVariable record now) state = .ok left ∧
      left.get? = seenBy v.1 state next := by
  have hsorted : (earlier ++ v :: later).Pairwise (fun v w => v.1 < w.1) :=
    hsplit ▸ u.vars.sorted
  obtain ⟨hs, hs', hlt⟩ := List.pairwise_append.mp hsorted
  have hall := (foldlM_stepVariable_eq_ok_iff u.vars.sorted).mpr ⟨h.others, h.vars⟩
  rw [hsplit, List.foldlM_append, bind_eq_ok_iff] at hall
  obtain ⟨left, hleft, hrest⟩ := hall
  obtain ⟨hbefore, _⟩ := (foldlM_stepVariable_eq_ok_iff hs).mp hleft
  obtain ⟨hafter, _⟩ := (foldlM_stepVariable_eq_ok_iff hs').mp hrest
  refine ⟨left, hleft, funext fun other => ?_⟩
  unfold seenBy
  split
  · next ho =>
    exact (hafter other (not_mem_names_cons_of_lt (List.pairwise_cons.mp hs').1 ho)).symm
  · next ho =>
    refine hbefore other fun hn => ?_
    obtain ⟨w, hw, rfl⟩ := List.mem_map.mp hn
    exact ho (hlt w hw v (List.mem_cons_self ..))

/-- An update succeeds just with its effect. Each variable is evaluated in its turn on the state
that those before it have left, on top of the record. Its text replaces the one that it had; a
variable without a text is gone, and the record's attribute of that name is seen from then on. -/
theorem apply_effect (u : Updater) (state : State) (record : Lookup) (now : Instant)
    (update : Update) (next : State) :
    (u.apply state record now = .ok (update, next) ↔ u.Effect state record now update next) ∧
    (u.apply state record now = .ok (update, next) →
      ∀ earlier v later, u.vars.entries = earlier ++ v :: later →
        (∀ w ∈ earlier, w.1 < v.1) ∧ (∀ w ∈ later, v.1 < w.1) ∧
        ∃ left, earlier.foldlM (u.stepVariable record now) state = .ok left ∧
          u.textWith (.over left.get? record) now v.2 = .ok (next.get? v.1) ∧
          u.stepVariable record now left v = .ok (left.put v.1 (next.get? v.1)) ∧
          ∀ w ∈ later, Lookup.over (seenBy w.1 state next) record v.1 =
            (next.get? v.1).or (record v.1)) := by
  refine ⟨apply_eq_ok_iff, fun h earlier v later hsplit => ?_⟩
  have he : u.Effect state record now update next := apply_eq_ok_iff.mp h
  have hsorted : (earlier ++ v :: later).Pairwise (fun v w => v.1 < w.1) :=
    hsplit ▸ u.vars.sorted
  obtain ⟨_, hs, hlt⟩ := List.pairwise_append.mp hsorted
  -- later variables have later names, so they see what this one has left
  have hlater : ∀ w ∈ later, v.1 < w.1 := (List.pairwise_cons.mp hs).1
  obtain ⟨left, hleft, hseen⟩ := he.exists_left hsplit
  have htext : u.textWith (.over left.get? record) now v.2 = .ok (next.get? v.1) := by
    rw [hseen]
    exact he.vars v (hsplit ▸ List.mem_append_right _ (List.mem_cons_self ..))
  refine ⟨fun w hw => hlt w hw v (List.mem_cons_self ..), hlater, left, hleft, htext,
    stepVariable_eq_ok_iff.mpr ⟨_, htext, rfl⟩, fun w hw => ?_⟩
  rw [Lookup.over, seenBy, if_pos (hlater w hw)]

/-- The first variable sees its own old text, the second one is gone after its turn, and the third
one sees the new text of the first and the record in the place of the second. -/
theorem apply_effect_with_removal :
    let u : Updater := ⟨"t", .attr "b",
      ((Dictionary.empty.insert "c" (.concat [.attr "a", .attr "b"])).insert "b"
        (.literal (.absent .string))).insert "a" (.concat [.attr "a", .attr "b"]), .default⟩
    let state : State :=
      ((Dictionary.empty.insert "a" "1").insert "b" "2").insert "other" "kept"
    let record : Lookup := fun _ => some "r"
    let next : State :=
      ((Dictionary.empty.insert "a" "12").insert "c" "12r").insert "other" "kept"
    u.Effect state record .epoch ⟨"t", some "r"⟩ next ∧
      u.vars.entries = [("a", .concat [.attr "a", .attr "b"])] ++
        ("b", .literal (.absent .string)) :: [("c", .concat [.attr "a", .attr "b"])] ∧
      Lookup.over (seenBy "c" state next) record "b" = (next.get? "b").or (record "b") := by
  intro u state record next
  obtain ⟨heffect, hturns⟩ := apply_effect u state record .epoch ⟨"t", some "r"⟩ next
  have happly : u.apply state record .epoch = .ok (⟨"t", some "r"⟩, next) := rfl
  have hsplit : u.vars.entries = [("a", .concat [.attr "a", .attr "b"])] ++
      ("b", .literal (.absent .string)) :: [("c", .concat [.attr "a", .attr "b"])] := rfl
  obtain ⟨_, _, _, _, _, _, hseen⟩ := hturns happly _ _ _ hsplit
  exact ⟨heffect.mp happly, hsplit, hseen _ (List.mem_singleton_self _)⟩

end Updater

end RecordExpr
