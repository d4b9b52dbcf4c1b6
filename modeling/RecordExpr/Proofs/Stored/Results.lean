import RecordExpr.Stored
import RecordExpr.Proofs.Date.Exact

/-!
# Stored results

A result that is stored and read back is the same, decimals apart, which have no stored form
(`Result.ofJson_toJson?`), and dates in a leap second within a minute, of which there is no text.
Other JSON than the stored form of a result may be read as well: the kind and the value may be items
of an array or fields among others, and a value that is missing is absent (`Gives`). The kind that
is named decides in all of these forms: what is read is of that kind, and a value that names another
one is refused (`stored_results_exact`).
-/

namespace RecordExpr

/-! ### Parts of a stored result -/

/-- The JSON of the kind and of the value in a stored result: the two items of an array, or two
fields of an object, neither of them given twice, where a value that is missing is null. -/
inductive Gives : Json → Json → Json → Prop
  | items (kind value : Json) : Gives (.array [kind, value]) kind value
  | fields {fields : List (String × Json)} {kind value : Json}
    (hkind : Json.givenOnce? "result_type" fields = some (some kind))
    (hvalue : Json.givenOnce? "value" fields = some (some value)) :
    Gives (.object fields) kind value
  | noValue {fields : List (String × Json)} {kind : Json}
    (hkind : Json.givenOnce? "result_type" fields = some (some kind))
    (hvalue : Json.givenOnce? "value" fields = some none) :
    Gives (.object fields) kind .null

/-- The JSON names a kind, by its tag or by an object with nothing but its tag. -/
inductive NamesKind (k : Kind) : Json → Prop
  | tag : NamesKind k (.string k.tag)
  | field : NamesKind k (.object [(k.tag, .null)])

/-- The JSON of a value names a kind, whatever the value is. -/
def TaggedAs (k : Kind) (j : Json) : Prop := ∃ content, j = .object [(k.tag, content)]

variable {k l : Kind} {v : Value} {r : Result} {j kind value : Json} {tag : String}
  {fault : StoredFault}

namespace Kind

/-- A tag names one kind. -/
theorem ofTag?_eq_some_iff : ofTag? tag = some k ↔ tag = k.tag := by
  constructor
  · intro h
    have hfind : all.find? (fun l => l.tag == tag) = some k := h
    have htag := List.find?_some hfind
    exact (beq_iff_eq.mp htag).symm
  · rintro rfl
    exact ofTag?_tag k

/-- Kinds have different tags. -/
theorem tag_injective (h : k.tag = l.tag) : k = l := by
  have hl : ofTag? k.tag = some l := ofTag?_eq_some_iff.mpr h
  rw [ofTag?_tag] at hl
  exact Option.some.inj hl

/-- What names a kind is its tag, as a string. -/
theorem ofJson?_eq_some_iff : Kind.ofJson? j = some k ↔ NamesKind k j := by
  constructor
  · intro h
    unfold Kind.ofJson? at h
    split at h
    · rw [ofTag?_eq_some_iff.mp h]
      exact .tag
    · rw [ofTag?_eq_some_iff.mp h]
      exact .field
    · cases h
  · rintro (_ | _) <;> exact ofTag?_tag k

end Kind

namespace Value

/-- A value that is read is of the kind that its JSON names. -/
theorem taggedAs_of_ofJson? (h : Value.ofJson? j = some v) : TaggedAs v.kind j := by
  unfold Value.ofJson? at h
  split at h
  · rename_i tag content
    refine ⟨content, ?_⟩
    -- the reader goes by the kind of the tag, and each kind makes values of its own
    suffices hkind : Kind.ofTag? tag = some v.kind by rw [Kind.ofTag?_eq_some_iff.mp hkind]
    split at h
    · rename_i hkind
      cases h
      exact hkind
    · rename_i hkind
      cases h
      exact hkind
    · rename_i hkind
      obtain ⟨i, -, h⟩ := Option.bind_eq_some_iff.mp h
      obtain ⟨n, -, h⟩ := Option.bind_eq_some_iff.mp h
      cases h
      exact hkind
    · rename_i hkind
      obtain ⟨d, -, h⟩ := Option.bind_eq_some_iff.mp h
      cases h
      exact hkind
    · rename_i hkind
      obtain ⟨i, -, h⟩ := Option.bind_eq_some_iff.mp h
      cases h
      exact hkind
    · cases h
  · cases h

/-- The value that is read where this one was stored: dates are read from a text. -/
def asWritten : Value → Value
  | date i => date i.asWritten
  | v => v

/-- A value keeps its kind when it is written. -/
theorem kind_asWritten (v : Value) : v.asWritten.kind = v.kind := by cases v <;> rfl

/-- Values are stored as they are, with the exception of long seconds within a minute. -/
theorem asWritten_eq_self_iff : v.asWritten = v ↔ ∀ i, v = date i → i.EndsMinute := by
  cases v with
  | date i =>
    simp only [asWritten, date.injEq, Instant.asWritten_eq_self_iff]
    exact ⟨fun h j hj => hj ▸ h, fun h => h i rfl⟩
  | string _ | boolean _ | wholeNumber _ | decimal _ => exact iff_of_true rfl fun _ => nofun

/-- A value that is stored is read back. -/
theorem ofJson?_toJson? (h : v.kind ≠ .decimal) :
    ∃ j, v.toJson? = some j ∧ Value.ofJson? j = some v.asWritten := by
  cases v with
  | decimal d => exact absurd rfl h
  | string s => exact ⟨_, rfl, rfl⟩
  | boolean b => exact ⟨_, rfl, rfl⟩
  | wholeNumber n =>
    refine ⟨_, rfl, ?_⟩
    show ((JsonNumber.ofInt n.toInt).integer?.bind fun i =>
      (WholeNumber.ofInt? i).bind fun n => some (wholeNumber n)) = _
    rw [JsonNumber.integer?_ofInt, Option.bind_some, WholeNumber.ofInt?_toInt]
    rfl
  | date i =>
    refine ⟨_, rfl, ?_⟩
    show ((DateFormat.readRelaxed? (DateFormat.renderExact i)).bind fun i => some (date i)) = _
    rw [DateFormat.readRelaxed?_renderExact]
    rfl

end Value

theorem TaggedAs.ne_null (h : TaggedAs k value) : value ≠ .null := by
  obtain ⟨content, rfl⟩ := h
  exact Json.noConfusion

/-- A value in JSON has one tag. -/
theorem TaggedAs.unique (hk : TaggedAs k value) (hl : TaggedAs l value) : k = l := by
  obtain ⟨content, rfl⟩ := hk
  obtain ⟨content', h⟩ := hl
  simp only [Json.object.injEq, List.cons.injEq, Prod.mk.injEq] at h
  exact Kind.tag_injective h.1.1

namespace Result

/-! ### Reading by parts -/

/-- A result is read from its two parts, however they are given. -/
theorem ofJson_of_gives (h : Gives j kind value) : ofJson j = ofParts kind value := by
  cases h with
  | items => rfl
  | fields hkind hvalue => simp only [ofJson, hkind, hvalue, Option.getD_some]
  | noValue hkind hvalue => simp only [ofJson, hkind, hvalue, Option.getD_none]

/-- What is read as a result gives its two parts. -/
theorem exists_gives_of_ofJson (h : ofJson j = .ok r) :
    ∃ kind value, Gives j kind value ∧ ofParts kind value = .ok r := by
  unfold ofJson at h
  split at h
  · exact ⟨_, _, .items _ _, h⟩
  · split at h
    · rename_i value hkind hvalue
      cases value with
      | some value => exact ⟨_, _, .fields hkind hvalue, h⟩
      | none => exact ⟨_, _, .noValue hkind hvalue, h⟩
    · cases h
  · cases h

theorem ofParts_null (hkind : NamesKind k kind) : ofParts kind .null = .ok (.absent k) := by
  simp only [ofParts, Kind.ofJson?_eq_some_iff.mpr hkind]

/-- A value that is not null is read on its own, and then its kind is looked at. -/
theorem ofParts_of_ne_null (hkind : NamesKind k kind) (hvalue : value ≠ .null) :
    ofParts kind value = match Value.ofJson? value with
      | none => .error .malformed
      | some v => if v.kind = k then .ok (.present v) else .error (.wrongTag v.kind k) := by
  unfold ofParts
  rw [Kind.ofJson?_eq_some_iff.mpr hkind]
  split
  · rename_i h
    cases h
  · exact absurd rfl hvalue
  · rename_i hk _
    cases hk
    rfl

theorem exists_namesKind_of_ofParts (h : ofParts kind value = .ok r) :
    ∃ k, NamesKind k kind := by
  cases hkind : Kind.ofJson? kind with
  | none => simp [ofParts, hkind] at h
  | some k => exact ⟨k, Kind.ofJson?_eq_some_iff.mp hkind⟩

/-- What is read is of the kind that is named. -/
theorem ofParts_eq_ok (hkind : NamesKind k kind) (h : ofParts kind value = .ok r) :
    (value = .null ∧ r = .absent k) ∨
      ∃ v, TaggedAs k value ∧ v.kind = k ∧ r = .present v := by
  by_cases hvalue : value = .null
  · subst hvalue
    rw [ofParts_null hkind] at h
    exact .inl ⟨rfl, (Except.ok.inj h).symm⟩
  · rw [ofParts_of_ne_null hkind hvalue] at h
    split at h
    · cases h
    · rename_i v hread
      split at h
      · rename_i heq
        exact .inr ⟨v, heq ▸ Value.taggedAs_of_ofJson? hread, heq, (Except.ok.inj h).symm⟩
      · cases h

/-- A value that names another kind is refused, and the fault says so if it is a value at all. -/
theorem ofParts_of_taggedAs_ne (hkind : NamesKind k kind) (hvalue : TaggedAs l value)
    (hne : l ≠ k) :
    ofParts kind value =
      .error (if (Value.ofJson? value).isSome then .wrongTag l k else .malformed) := by
  rw [ofParts_of_ne_null hkind hvalue.ne_null]
  cases hread : Value.ofJson? value with
  | none => rfl
  | some v =>
    have hv : v.kind = l := (Value.taggedAs_of_ofJson? hread).unique hvalue
    dsimp only
    rw [hv, if_neg hne]
    rfl

/-- The result that is read where this one was stored. -/
def asWritten : Result → Result
  | absent k => absent k
  | present v => present v.asWritten

/-- Results are stored as they are, with the same exception. -/
theorem asWritten_eq_self_iff :
    r.asWritten = r ↔ ∀ i, r = .present (.date i) → i.EndsMinute := by
  cases r with
  | absent k => exact iff_of_true rfl fun _ => nofun
  | present v => simp only [asWritten, present.injEq, Value.asWritten_eq_self_iff]

/-- A result that is stored is read back. -/
theorem ofJson_toJson? (h : ∀ d, r ≠ .present (.decimal d)) :
    ∃ j, r.toJson? = some j ∧ ofJson j = .ok r.asWritten := by
  cases r with
  | absent k =>
    refine ⟨_, rfl, ?_⟩
    rw [ofJson_of_gives (.fields rfl rfl)]
    exact ofParts_null .tag
  | present v =>
    have hkind : v.kind ≠ .decimal := by
      cases v with
      | decimal d => exact absurd rfl (h d)
      | _ => exact Kind.noConfusion
    obtain ⟨value, hstore, hread⟩ := Value.ofJson?_toJson? hkind
    have hvalue : value ≠ .null := (Value.taggedAs_of_ofJson? hread).ne_null
    refine ⟨.object [("result_type", .string v.kind.tag), ("value", value)], ?_, ?_⟩
    · rw [toJson?, hstore]
      rfl
    · have hread' : ofParts (.string v.kind.tag) value = .ok (.present v.asWritten) := by
        rw [ofParts_of_ne_null .tag hvalue, hread]
        exact if_pos v.kind_asWritten
      rw [ofJson_of_gives (.fields rfl rfl)]
      exact hread'

end Result

/-- A result without a decimal is stored and read back as it was, but for a date in a leap second
within a minute, which is read as the next second. Whatever is read has the kind that its JSON
names, and a value of that kind unless it is absent; where the value names another kind than the
result, nothing is read, and the fault names both if the value could be read on its own. -/
theorem stored_results_exact :
    (∀ r : Result, (∀ d, r ≠ .present (.decimal d)) →
      ∃ j, r.toJson? = some j ∧ Result.ofJson j = .ok r.asWritten) ∧
    (∀ r : Result, r.asWritten = r ↔ ∀ i, r = .present (.date i) → i.EndsMinute) ∧
    (∀ j r, Result.ofJson j = .ok r → ∃ kind value k, Gives j kind value ∧ NamesKind k kind ∧
      (value = .null ∧ r = .absent k ∨
        ∃ v, TaggedAs k value ∧ v.kind = k ∧ r = .present v)) ∧
    (∀ j kind value k l, Gives j kind value → NamesKind k kind → TaggedAs l value → l ≠ k →
      Result.ofJson j =
        .error (if (Value.ofJson? value).isSome then .wrongTag l k else .malformed)) := by
  refine ⟨fun r h => Result.ofJson_toJson? h, fun r => Result.asWritten_eq_self_iff, ?_, ?_⟩
  · intro j r h
    obtain ⟨kind, value, hgives, hparts⟩ := Result.exists_gives_of_ofJson h
    obtain ⟨k, hkind⟩ := Result.exists_namesKind_of_ofParts hparts
    exact ⟨kind, value, k, hgives, hkind, Result.ofParts_eq_ok hkind hparts⟩
  · intro j kind value k l hgives hkind hvalue hne
    rw [Result.ofJson_of_gives hgives]
    exact Result.ofParts_of_taggedAs_ne hkind hvalue hne

/-- The last leap second of the calendar, an item of an array, and a value of another kind. -/
theorem stored_results_exact_three_inputs :
    (∃ last : Instant, last.second = Calendar.lastSecond ∧ last.nano = 1999999999 ∧
      ∃ j, (Result.present (.date last)).toJson? = some j ∧
        Result.ofJson j = .ok (.present (.date last))) ∧
    (∃ kind value k,
      Gives (.array [.string "Boolean", .object [("Boolean", .bool true)]]) kind value ∧
      NamesKind k kind ∧ (value = .null ∧ Result.present (.boolean true) = .absent k ∨
        ∃ v, TaggedAs k value ∧ v.kind = k ∧ Result.present (.boolean true) = .present v)) ∧
    Result.ofJson (.object [("note", .null), ("value", .object [("WholeNumber", .ofInt 5)]),
      ("note", .null), ("result_type", .object [("String", .null)])]) =
        .error (.wrongTag .wholeNumber .string) := by
  let last : Instant :=
    ⟨Calendar.lastSecond, 1999999999, by decide, by decide, by decide, by decide⟩
  have hlast : (Result.present (.date last)).asWritten = .present (.date last) := by
    refine (stored_results_exact.2.1 _).mpr ?_
    rintro i ⟨⟩
    decide
  obtain ⟨j, hstore, hread⟩ := stored_results_exact.1 (.present (.date last)) (fun _ => nofun)
  rw [hlast] at hread
  refine ⟨⟨last, rfl, rfl, j, hstore, hread⟩, stored_results_exact.2.2.1 _ _ rfl, ?_⟩
  exact stored_results_exact.2.2.2 _ _ _ .string .wholeNumber (.fields rfl rfl) .field
    ⟨.ofInt 5, rfl⟩ (by decide)

/-- There is no text of a third of a leap second after 23:56:04. -/
theorem stored_date_not_read_back :
    ¬∀ r : Result, (∀ d, r ≠ .present (.decimal d)) →
      ∃ j, r.toJson? = some j ∧ Result.ofJson j = .ok r := by
  intro h
  let i : Instant := ⟨86164, 1333333333, by decide, by decide, by decide, by decide⟩
  obtain ⟨j, hstore, hread⟩ := h (.present (.date i)) (fun _ => nofun)
  obtain ⟨j', hstore', hread'⟩ :=
    Result.ofJson_toJson? (r := .present (.date i)) (fun _ => nofun)
  obtain rfl : j = j' := Option.some.inj (hstore.symm.trans hstore')
  have hself : (Result.present (.date i)).asWritten = .present (.date i) :=
    Except.ok.inj (hread'.symm.trans hread)
  exact absurd (Result.asWritten_eq_self_iff.mp hself i rfl) (by decide)

end RecordExpr
