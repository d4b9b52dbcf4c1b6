import Mathlib.Data.Finset.Card
import RecordExpr.Proofs.Record.CacheHistory

/-!
# The contents of a cache

What a cache holds can be told from the calls that it has answered: an event is a call with what is
seen of its answer, and the entry of a name is the one that the last successful build of that name
has entered, unless the name has been invalidated since (`LastBuilt`, `get?_afterAll_iff`, by
induction from what one call does to the entry of a name, `get?_after_iff`).

So a cache is a map from names to entries (`contents_afterAll`): a request is answered from the map,
or the expression is built and entered in the map, or it is refused and the map stays as it is. An
entry that is kept is the one that was entered, and not an equal one, since each successful build
gives its entry a number of its own (`pairwise_serial_eventsFrom`).
-/

namespace RecordExpr

/-- The entry that a successful build has entered. -/
def CacheEvent.entered? : CacheEvent → Option CacheEntry
  | answered _ ⟨true, .ok entry⟩ => some entry
  | _ => none

namespace Cache

/-- What is seen of some calls of a cache. -/
def eventsFrom (c : Cache) : List CacheCall → List CacheEvent
  | [] => []
  | call :: calls => c.event call :: (c.after call).eventsFrom calls

/-- What is seen of some calls, the first of which meets an empty cache. -/
def events (calls : List CacheCall) : List CacheEvent := empty.eventsFrom calls

/-- The last successful build of a name has entered `entry`, and the name has not been invalidated
since. -/
def LastBuilt (events : List CacheEvent) (name : String) (entry : CacheEntry) : Prop :=
  ∃ earlier later, events = earlier ++ .answered name ⟨true, .ok entry⟩ :: later ∧
    ∀ event ∈ later, event ≠ .invalidated name ∧
      ∀ other, event ≠ .answered name ⟨true, .ok other⟩

variable {c : Cache} {name fingerprint : String} {required : Option Kind}
  {build : Except String Expr} {entry : CacheEntry}

/-! ### All calls -/

theorem eventsFrom_append_singleton (c : Cache) (calls : List CacheCall) (call : CacheCall) :
    c.eventsFrom (calls ++ [call]) =
      c.eventsFrom calls ++ [(calls.foldl after c).event call] := by
  induction calls generalizing c with
  | nil => rfl
  | cons first calls ih =>
    rw [List.cons_append, eventsFrom, ih]
    rfl

theorem events_append_singleton (calls : List CacheCall) (call : CacheCall) :
    events (calls ++ [call]) = events calls ++ [(afterAll calls).event call] :=
  eventsFrom_append_singleton empty calls call

/-- What was built last, after one more event: that event, or what it leaves of the events
before. -/
theorem lastBuilt_append_singleton {events : List CacheEvent} {event : CacheEvent} :
    LastBuilt (events ++ [event]) name entry ↔
      event = .answered name ⟨true, .ok entry⟩ ∨
      LastBuilt events name entry ∧ event ≠ .invalidated name ∧
        ∀ other, event ≠ .answered name ⟨true, .ok other⟩ := by
  constructor
  · rintro ⟨earlier, later, heq, hlater⟩
    -- the build is the last event, or the last event comes after it
    rcases List.eq_nil_or_concat later with rfl | ⟨later, last, rfl⟩
    · obtain ⟨_, h⟩ := List.append_inj' heq rfl
      exact .inl (List.singleton_inj.mp h)
    · rw [List.concat_eq_append, ← List.cons_append, ← List.append_assoc] at heq
      obtain ⟨rfl, h⟩ := List.append_inj' heq rfl
      obtain rfl := List.singleton_inj.mp h
      refine .inr ⟨⟨earlier, later, rfl, fun e he => hlater e (by simp [he])⟩, ?_⟩
      exact hlater event (by simp)
  · rintro (rfl | ⟨⟨earlier, later, rfl, hlater⟩, hevent⟩)
    · exact ⟨events, [], rfl, by simp⟩
    · refine ⟨earlier, later ++ [event], by simp, fun e he => ?_⟩
      rcases List.mem_append.mp he with he | he
      · exact hlater e he
      · rw [List.mem_singleton.mp he]
        exact hevent

/-- A cache holds what was built last and has not been invalidated since. -/
theorem get?_afterAll_iff {calls : List CacheCall} :
    (afterAll calls).entries.get? name = some entry ↔ LastBuilt (events calls) name entry := by
  induction calls using List.reverseRecOn with
  | nil =>
    refine ⟨fun h => (by cases h), ?_⟩
    rintro ⟨earlier, later, heq, _⟩
    simp [events, eventsFrom] at heq
  | append_singleton calls call ih =>
    rw [afterAll_append_singleton, get?_after_iff, ih, events_append_singleton,
      lastBuilt_append_singleton]

/-- Each successful build gives its entry a number that is greater than all before. -/
theorem pairwise_serial_eventsFrom (c : Cache) (calls : List CacheCall) :
    ((c.eventsFrom calls).filterMap CacheEvent.entered?).Pairwise (·.serial < ·.serial) ∧
      ∀ entry ∈ (c.eventsFrom calls).filterMap CacheEvent.entered?, c.entered ≤ entry.serial := by
  induction calls generalizing c with
  | nil => simp [eventsFrom]
  | cons call calls ih =>
    obtain ⟨hp, hle⟩ := ih (c.after call)
    cases call with
    | invalidate name => exact ⟨hp, hle⟩
    | get name fingerprint required build =>
      rw [eventsFrom, event]
      rw [after] at hp hle ⊢
      rcases c.get_cases name fingerprint required build with
        ⟨_, _, hg⟩ | ⟨_, e, _, _, hg⟩ | ⟨_, _, hg⟩ <;> rw [hg] at hp hle ⊢
      · exact ⟨hp, hle⟩
      · -- the numbers after this one start above it
        refine ⟨List.pairwise_cons.mpr ⟨hle, hp⟩, List.forall_mem_cons.mpr ⟨Nat.le_refl _, ?_⟩⟩
        exact fun entry he => Nat.le_of_succ_le (hle entry he)
      · exact ⟨hp, hle⟩

/-! ### Requests -/

/-- An entry is kept whatever the request asks for, and whatever building it anew would come to. -/
theorem get_of_get? (h : c.entries.get? name = some entry) (required : Option Kind)
    (build : Except String Expr) :
    c.get name entry.fingerprint required build = (⟨false, .ok entry⟩, c) := by
  have hcur : c.current? name entry.fingerprint = some entry := current?_eq_some_iff.mpr ⟨h, rfl⟩
  rw [get, hcur]

/-- A call misses if there is no entry of its name with its fingerprint. -/
theorem current?_eq_none_iff :
    c.current? name fingerprint = none ↔
      ∀ entry, c.entries.get? name = some entry → entry.fingerprint ≠ fingerprint := by
  simp [current?, Option.filter_eq_none_iff]

/-- It builds exactly when it misses. -/
theorem built_iff :
    (c.get name fingerprint required build).1.built = true ↔
      ∀ entry, c.entries.get? name = some entry → entry.fingerprint ≠ fingerprint := by
  rw [← current?_eq_none_iff]
  rcases c.get_cases name fingerprint required build with
    ⟨_, hc, hg⟩ | ⟨hc, _, _, _, hg⟩ | ⟨⟨hc, _⟩, _, hg⟩ <;> rw [hg, hc] <;> simp

/-- Where nothing is built, the entry is kept. -/
theorem exists_get?_of_built (h : (c.get name fingerprint required build).1.built = false) :
    ∃ entry, c.entries.get? name = some entry ∧ entry.fingerprint = fingerprint := by
  by_contra hne
  have hb : (c.get name fingerprint required build).1.built = true :=
    built_iff.mpr fun entry he hf => hne ⟨entry, he, hf⟩
  cases h.symm.trans hb

/-- It fails exactly when it builds and has no tree without errors. -/
theorem exists_error_iff :
    (∃ failure, (c.get name fingerprint required build).1.entry = .error failure) ↔
      (c.get name fingerprint required build).1.built = true ∧
        ∀ e, build = .ok e → hasErrors (validateFor e required) = true := by
  rcases c.get_cases name fingerprint required build with
    ⟨_, _, hg⟩ | ⟨_, e, he, hv, hg⟩ | ⟨⟨_, hr⟩, _, hg⟩ <;> rw [hg]
  · simp
  · simp [he, hv]
  · exact ⟨fun _ => ⟨rfl, hr⟩, fun _ => ⟨_, rfl⟩⟩

/-- A call that fails leaves the cache as it was. -/
theorem after_of_error {failure : Failure}
    (h : (c.get name fingerprint required build).1.entry = .error failure) :
    (c.get name fingerprint required build).2 = c := by
  rcases c.get_cases name fingerprint required build with
    ⟨_, _, hg⟩ | ⟨_, _, _, _, hg⟩ | ⟨_, _, hg⟩
  · rw [hg]
  · rw [hg] at h
    cases h
  · rw [hg]

/-! ### What is held -/

/-- All trees in a cache have passed validation. -/
theorem valid_of_get?_afterAll {calls : List CacheCall}
    (h : (afterAll calls).entries.get? name = some entry) :
    hasErrors (validate entry.expr) = false := by
  obtain ⟨_, _, _, _, _, _, hb⟩ := exists_entered_of_get?_afterAll h
  exact hasErrors_validate_of_validateFor (entered_of_get hb).valid

/-- The size of a cache is the number of its names. -/
theorem exists_names (c : Cache) :
    ∃ names : Finset String,
      (∀ name, name ∈ names ↔ ∃ entry, c.entries.get? name = some entry) ∧
        c.size = names.card := by
  refine ⟨c.entries.names.toFinset, fun name => ?_, ?_⟩
  · rw [List.mem_toFinset, Dictionary.mem_names_iff, Option.isSome_iff_exists]
  · rw [List.toFinset_card_of_nodup c.entries.nodup_names, Dictionary.length_names]
    rfl

/-- After any calls, a cache is the map from each name to the entry that its last successful build
has entered since the name was invalidated. The next request builds an expression just if the map
has none with the fingerprint, and is refused just if this fails or the expression is not valid.
Then the map stays as it is. -/
theorem contents_afterAll (calls : List CacheCall) :
    let c := afterAll calls
    (∀ name entry, c.entries.get? name = some entry ↔ LastBuilt (events calls) name entry) ∧
    ((events calls).filterMap CacheEvent.entered?).Pairwise (·.serial < ·.serial) ∧
    (∀ name entry, c.entries.get? name = some entry → hasErrors (validate entry.expr) = false) ∧
    (∃ names : Finset String,
      (∀ name, name ∈ names ↔ ∃ entry, c.entries.get? name = some entry) ∧
        c.size = names.card) ∧
    ∀ name fingerprint required build,
      let answer := (c.get name fingerprint required build).1
      let next := (c.get name fingerprint required build).2
      (answer.built = true ↔
        ∀ entry, c.entries.get? name = some entry → entry.fingerprint ≠ fingerprint) ∧
      (answer.built = false → ∃ entry, LastBuilt (events calls) name entry ∧
        entry.fingerprint = fingerprint ∧ ∀ required build,
          c.get name fingerprint required build = (⟨false, .ok entry⟩, c)) ∧
      (∀ entry, answer = ⟨true, .ok entry⟩ → Entered required build fingerprint entry) ∧
      ((∃ failure, answer.entry = .error failure) ↔
        answer.built = true ∧ ∀ e, build = .ok e → hasErrors (validateFor e required) = true) ∧
      (∀ failure, answer.entry = .error failure → next = c ∧
        ∀ entry, c.entries.get? name = some entry → ∀ required build,
          next.get name entry.fingerprint required build = (⟨false, .ok entry⟩, c)) := by
  intro c
  refine ⟨fun _ _ => get?_afterAll_iff, (pairwise_serial_eventsFrom empty calls).1,
    fun _ _ => valid_of_get?_afterAll, c.exists_names, fun name fingerprint required build => ?_⟩
  refine ⟨built_iff, fun hb => ?_, fun entry => entered_of_get, exists_error_iff, fun _ he => ?_⟩
  · -- a hit hands out what the map has, whatever is required
    obtain ⟨entry, hentry, rfl⟩ := exists_get?_of_built hb
    exact ⟨entry, get?_afterAll_iff.mp hentry, rfl, get_of_get? hentry⟩
  · -- a failure leaves the map, so the next request finds the entry in it
    have hnext : (c.get name fingerprint required build).2 = c := after_of_error he
    refine ⟨hnext, fun entry hentry required build => ?_⟩
    rw [hnext]
    exact get_of_get? hentry required build

/-- An expression is kept although another fingerprint was asked for and could not be built, and
also when it can be built but is not of the kind that is required. -/
theorem contents_afterAll_two_refused :
    let yes := Expr.literal (.present (.boolean true))
    let calls := [CacheCall.get "p" "v1" none (.ok yes),
      .get "p" "v2" none (.error "unfinished"), .invalidate "q"]
    let c := afterAll calls
    let refused := c.get "p" "v2" (some .string) (.ok yes)
    LastBuilt (events calls) "p" ⟨"v1", yes, 0⟩ ∧
      (∃ entry, LastBuilt (events calls) "p" entry ∧
        c.get "p" "v1" none (.error "unused") = (⟨false, .ok entry⟩, c)) ∧
      refused.2 = c ∧
      refused.2.get "p" "v1" none (.error "unused") = (⟨false, .ok ⟨"v1", yes, 0⟩⟩, c) ∧
      Entered (some .boolean) (.ok yes) "v2" ⟨"v2", yes, 1⟩ := by
  intro yes calls c refused
  obtain ⟨hheld, _, _, _, hrequest⟩ := contents_afterAll calls
  have hget : c.entries.get? "p" = some ⟨"v1", yes, 0⟩ := rfl
  obtain ⟨_, hkept, _⟩ := hrequest "p" "v1" none (.error "unused")
  obtain ⟨entry, hlast, _, hanswer⟩ := hkept rfl
  obtain ⟨_, _, _, _, hrefused⟩ := hrequest "p" "v2" (some .string) (.ok yes)
  obtain ⟨hnext, hstill⟩ := hrefused _ rfl
  obtain ⟨_, _, hentered, _, _⟩ := hrequest "p" "v2" (some .boolean) (.ok yes)
  exact ⟨(hheld _ _).mp hget, ⟨entry, hlast, hanswer _ _⟩, hnext, hstill _ hget _ _,
    hentered _ rfl⟩

end Cache

end RecordExpr
