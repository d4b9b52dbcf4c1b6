import Mathlib.Data.List.Induction
import Mathlib.Tactic.ByContra
import RecordExpr.Proofs.Validation.Issues
import RecordExpr.Record.Cache

/-!
# Histories of a cache

A history is a list of calls, the first of which meets an empty cache (`Cache.afterAll`). Whatever a
cache holds was entered by one of the calls (`exists_entered_of_get?_afterAll`, by induction from
what one call can change, `get?_after`).

A call that requires a kind looks at it only when it builds the expression. An expression that is
kept is handed out as it is, so it may be of another kind, if an earlier call for the same name and
fingerprint entered it without this requirement. Nothing else can make the kind differ from what is
required (`kind_ne_of_get_iff`).
-/

namespace RecordExpr

/-- A call of a cache. The outcome of building is only looked at if the cache asks for it. -/
inductive CacheCall
  | get (name fingerprint : String) (required : Option Kind) (build : Except String Expr)
  | invalidate (name : String)

/-- What is seen of a call of a cache. -/
inductive CacheEvent
  | answered (name : String) (answer : Cache.Answer)
  | invalidated (name : String)

namespace Cache

/-- The cache after a call. -/
def after (c : Cache) : CacheCall → Cache
  | .get name fingerprint required build => (c.get name fingerprint required build).2
  | .invalidate name => (c.invalidate name).2

/-- The cache after some calls. -/
def afterAll (calls : List CacheCall) : Cache := calls.foldl after empty

/-- What is seen of a call of a cache. -/
def event (c : Cache) : CacheCall → CacheEvent
  | .get name fingerprint required build =>
    .answered name (c.get name fingerprint required build).1
  | .invalidate name => .invalidated name

variable {c : Cache} {name fingerprint : String} {required : Option Kind}
  {build : Except String Expr} {entry : CacheEntry}

/-! ### One call -/

theorem current?_eq_some_iff :
    c.current? name fingerprint = some entry ↔
      c.entries.get? name = some entry ∧ entry.fingerprint = fingerprint := by
  simp [current?, Option.filter_eq_some_iff]

/-- Everything that a request can do: an expression is kept, entered or refused. -/
theorem get_cases (c : Cache) (name fingerprint : String) (required : Option Kind)
    (build : Except String Expr) :
    (∃ entry, c.current? name fingerprint = some entry ∧
      c.get name fingerprint required build = (⟨false, .ok entry⟩, c)) ∨
    (c.current? name fingerprint = none ∧ ∃ e, build = .ok e ∧
      hasErrors (validateFor e required) = false ∧
        c.get name fingerprint required build =
          (⟨true, .ok ⟨fingerprint, e, c.entered⟩⟩,
            ⟨c.entries.insert name ⟨fingerprint, e, c.entered⟩, c.entered + 1⟩)) ∨
    ((c.current? name fingerprint = none ∧
        ∀ e, build = .ok e → hasErrors (validateFor e required) = true) ∧
      ∃ failure, c.get name fingerprint required build = (⟨true, .error failure⟩, c)) := by
  cases hcur : c.current? name fingerprint with
  | some entry => exact .inl ⟨entry, rfl, by rw [get, hcur]⟩
  | none =>
    right
    cases build with
    -- there is nothing to validate, and the cache is not touched
    | error message =>
      refine .inr ⟨⟨rfl, fun e he => by cases he⟩, .building message, ?_⟩
      rw [get, hcur]
      rfl
    | ok e =>
      cases hv : hasErrors (validateFor e required) with
      | false =>
        refine .inl ⟨rfl, e, rfl, hv, ?_⟩
        rw [get, hcur]
        simp only [enter, pure_bind, requireValid_eq_ok_iff.mpr hv]
        rfl
      | true =>
        -- the failure names the errors only
        let failure : Failure :=
          .invalid (.property name) ((validateFor e required).filter Issue.isError)
        refine .inr ⟨⟨rfl, ?_⟩, failure, ?_⟩
        · rintro _ ⟨⟩
          exact hv
        · rw [get, hcur]
          simp only [enter, pure_bind, requireValid_of_hasErrors hv]
          rfl

/-- What a call enters has been built by it, is valid, and is of the kind that it requires. -/
structure Entered (required : Option Kind) (build : Except String Expr) (fingerprint : String)
    (entry : CacheEntry) : Prop where
  build_eq : build = .ok entry.expr
  valid : hasErrors (validateFor entry.expr required) = false
  fingerprint_eq : entry.fingerprint = fingerprint

/-- What a call stores is the tree that it built, of the kind required, under its fingerprint. -/
theorem entered_of_get (h : (c.get name fingerprint required build).1 = ⟨true, .ok entry⟩) :
    Entered required build fingerprint entry := by
  rcases c.get_cases name fingerprint required build with
    ⟨_, _, hg⟩ | ⟨_, e, hb, hv, hg⟩ | ⟨_, _, hg⟩ <;> rw [hg] at h <;> cases h
  exact ⟨hb, hv, rfl⟩

/-- A name has an entry after a call if the call has entered it, or if it had the entry before and
the call has neither invalidated the name nor entered another one. -/
theorem get?_after_iff {call : CacheCall} :
    (c.after call).entries.get? name = some entry ↔
      c.event call = .answered name ⟨true, .ok entry⟩ ∨
      c.entries.get? name = some entry ∧ c.event call ≠ .invalidated name ∧
        ∀ other, c.event call ≠ .answered name ⟨true, .ok other⟩ := by
  cases call with
  | invalidate other =>
    simp only [after, invalidate, event, Dictionary.get?_erase]
    by_cases hn : name = other
    · simp [hn]
    · simp [hn, Ne.symm hn]
  | get other fingerprint required build =>
    rw [after, event]
    -- kept and refused trees leave the map as it is, so one case is left
    rcases c.get_cases other fingerprint required build with
      ⟨_, _, hg⟩ | ⟨_, e, _, _, hg⟩ | ⟨_, _, hg⟩ <;> rw [hg]
    · simp
    · rw [Dictionary.get?_insert]
      by_cases hn : name = other
      · simp [hn]
      · simp [hn, Ne.symm hn]
    · simp

/-- What a cache holds after a call it held before, or the call has entered it. -/
theorem get?_after {call : CacheCall} (h : (c.after call).entries.get? name = some entry) :
    c.entries.get? name = some entry ∨
      ∃ fingerprint required build, call = .get name fingerprint required build ∧
        (c.get name fingerprint required build).1 = ⟨true, .ok entry⟩ := by
  rcases get?_after_iff.mp h with he | ⟨h, _⟩
  · cases call with
    | invalidate other => cases he
    | get other fingerprint required build =>
      obtain ⟨rfl, ha⟩ := CacheEvent.answered.inj he
      exact .inr ⟨fingerprint, required, build, rfl, ha⟩
  · exact .inl h

/-! ### All calls -/

theorem afterAll_append_singleton (calls : List CacheCall) (call : CacheCall) :
    afterAll (calls ++ [call]) = (afterAll calls).after call := by
  rw [afterAll, List.foldl_append]
  rfl

/-- What a cache holds has been entered by one of the calls. -/
theorem exists_entered_of_get?_afterAll {calls : List CacheCall}
    (h : (afterAll calls).entries.get? name = some entry) :
    ∃ before fingerprint required build later,
      calls = before ++ .get name fingerprint required build :: later ∧
        ((afterAll before).get name fingerprint required build).1 = ⟨true, .ok entry⟩ := by
  -- the last call is looked at first: it has entered the expression, or those before it have
  induction calls using List.reverseRecOn with
  | nil => cases h
  | append_singleton calls call ih =>
    rw [afterAll_append_singleton] at h
    rcases get?_after h with h | ⟨fingerprint, required, build, rfl, hb⟩
    · obtain ⟨before, fingerprint, required, build, later, rfl, hb⟩ := ih h
      exact ⟨before, fingerprint, required, build, later ++ [call], by simp, hb⟩
    · exact ⟨calls, fingerprint, required, build, [], rfl, hb⟩

/-- An expression that is handed out after some calls is of another kind than is required just if it
is kept from one of these calls, for the same name and fingerprint, that did not require the kind:
either it required nothing, and the kind is another one, or it required another kind. -/
theorem kind_ne_of_get_iff {calls : List CacheCall} {k : Kind}
    (h : ((afterAll calls).get name fingerprint (some k) build).1.entry = .ok entry) :
    entry.expr.kind ≠ k ↔
      ∃ before required build' later,
        calls = before ++ .get name fingerprint required build' :: later ∧
          ((afterAll before).get name fingerprint required build').1 = ⟨true, .ok entry⟩ ∧
            required ≠ some k ∧ (required = none → entry.expr.kind ≠ k) := by
  constructor
  · intro hk
    rcases (afterAll calls).get_cases name fingerprint (some k) build with
      ⟨_, hc, hg⟩ | ⟨_, e, _, hv, hg⟩ | ⟨_, _, hg⟩ <;> rw [hg] at h <;> cases h
    · -- the expression is kept, so some call has entered it
      obtain ⟨hget, hfp⟩ := current?_eq_some_iff.mp hc
      obtain ⟨before, fp, required, build', later, hcalls, hb⟩ :=
        exists_entered_of_get?_afterAll hget
      have he := entered_of_get hb
      obtain rfl : fp = fingerprint := he.fingerprint_eq.symm.trans hfp
      refine ⟨before, required, build', later, hcalls, hb, ?_, fun _ => hk⟩
      rintro rfl
      exact hk (kind_of_validateFor he.valid)
    · -- what has just been built is of the kind that was required
      exact absurd (kind_of_validateFor hv) hk
  · rintro ⟨before, required, build', later, _, hb, hne, hnone⟩
    cases required with
    | none => exact hnone rfl
    | some l =>
      -- the call that entered it required another kind, and the expression is of that
      have hl : entry.expr.kind = l := kind_of_validateFor (entered_of_get hb).valid
      rintro rfl
      exact hne (congrArg some hl.symm)

/-- The constant true, required to be a truth value twice. -/
theorem kind_ne_of_get_iff_required_twice :
    let yes := Expr.literal (.present (.boolean true))
    let calls := [CacheCall.get "route" "v1" (some .boolean) (.ok yes)]
    ∃ entry,
      ((afterAll calls).get "route" "v1" (some .boolean) (.ok yes)).1.entry = .ok entry ∧
        entry.expr.kind = .boolean := by
  intro yes calls
  have hg : ((afterAll calls).get "route" "v1" (some .boolean) (.ok yes)).1.entry =
      .ok ⟨"v1", yes, 0⟩ := rfl
  refine ⟨_, hg, ?_⟩
  by_contra hk
  -- no other call has entered it
  obtain ⟨before, required, build, later, hcalls, _, hne, _⟩ := (kind_ne_of_get_iff hg).mp hk
  cases before with
  | nil => simp_all [calls]
  | cons call before => simp [calls] at hcalls

/-- The constant true is handed out as a string, since it was kept when nothing was required. -/
theorem get_of_other_kind :
    let yes := Expr.literal (.present (.boolean true))
    let calls := [CacheCall.get "route" "v1" none (.ok yes)]
    ∃ entry,
      ((afterAll calls).get "route" "v1" (some .string) (.ok yes)).1.entry = .ok entry ∧
        entry.expr.kind ≠ .string :=
  ⟨_, rfl, by decide⟩

end Cache

end RecordExpr
