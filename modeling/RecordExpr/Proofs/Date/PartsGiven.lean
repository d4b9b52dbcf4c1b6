import RecordExpr.Date.Reader

/-!
# The parts that a format gives

Which parts of a date a text has can be told from the format alone. An item that is read adds the
parts that it stands for to those that have been read before, and no others (`Item.parts`). Only
nanoseconds may be missing from a text although the format has a place for them, since a point and
the digits after it may be left out.

`Gains given ps qs` says that `qs` has these parts besides those of `ps`, and `Adds given ps x` that
whatever the reading `x` comes to has them. Both are kept when one reading follows another
(`Gains.trans`, `Adds.bind`), so they hold of whole formats (`isSome_get?_of_readItems?`).
-/

namespace RecordExpr.DateFormat

variable {ps qs rs : Parts} {p : Part} {v : Int} {given more : List Part}

/-! ### Parts of items -/

/-- The parts that a number stands for. -/
def Number.parts : Number → List Part
  | year => [.year]
  | century => [.century]
  | yearOfCentury => [.yearOfCentury]
  | weekYear => [.weekYear]
  | weekYearOfCentury => [.weekYearOfCentury]
  | quarter => [.quarter]
  | month => [.month]
  | day => [.day]
  | weekFromSunday => [.weekFromSunday]
  | weekFromMonday => [.weekFromMonday]
  | isoWeek => [.isoWeek]
  | daysFromSunday | dayOfWeek => [.weekday]
  | dayOfYear => [.dayOfYear]
  | hour => [.half, .hourInHalf]
  | hourOfHalf => [.hourInHalf]
  | minute => [.minute]
  | second => [.second]
  | nanosecond => [.nanosecond]
  | timestamp => [.timestamp]

/-- The parts that an item stands for. -/
def Item.parts : Item → List Part
  | text _ | blank _ | zoneName => []
  | number n _ => n.parts
  | monthName _ => [.month]
  | weekdayName _ => [.weekday]
  | half _ => [.half]
  | fraction | digits _ _ => [.nanosecond]
  | offset _ => [.offset]
  | stamp =>
    [.year, .month, .day, .half, .hourInHalf, .minute, .second, .nanosecond, .offset]

/-- The parts that a format stands for. -/
def formatParts (items : List Item) : List Part := items.flatMap Item.parts

/-! ### One part -/

/-- A part that is put is there afterwards, and the others are as they were. -/
theorem get?_of_put? (h : ps.put? p v = some qs) (q : Part) :
    qs.get? q = if q = p then some v else ps.get? q := by
  unfold Parts.put? at h
  split at h
  · cases h
  cases hg : ps.get? p with
  | none =>
    rw [hg] at h
    cases h
    rw [Parts.get?, List.lookup_cons]
    by_cases hq : q = p
    · rw [beq_iff_eq.mpr hq, if_pos hq]
    · rw [beq_eq_false_iff_ne.mpr hq, if_neg hq]
      rfl
  | some w =>
    rw [hg] at h
    dsimp only at h
    split at h
    · next hv =>
      cases h
      split
      · next hq => rw [hq, hg, hv]
      · rfl
    · cases h

/-- The second parts are these besides the first ones, nanoseconds apart. -/
def Gains (given : List Part) (ps qs : Parts) : Prop :=
  ∀ q, q ≠ .nanosecond → ((qs.get? q).isSome ↔ q ∈ given ∨ (ps.get? q).isSome)

namespace Gains

theorem refl (ps : Parts) : Gains [] ps ps := by
  intro q _
  simp

theorem trans (h : Gains given ps qs) (h' : Gains more qs rs) : Gains (given ++ more) ps rs := by
  intro q hq
  rw [h' q hq, h q hq, List.mem_append]
  exact or_left_comm.trans or_assoc.symm

theorem of_put? (h : ps.put? p v = some qs) : Gains [p] ps qs := by
  intro q _
  rw [get?_of_put? h, List.mem_singleton]
  split
  · next hq => simp [hq]
  · next hq => simp [hq]

/-- An hour of the day is put as two parts. -/
theorem of_putHour? (h : ps.putHour? v = some qs) : Gains [.half, .hourInHalf] ps qs := by
  obtain ⟨rs, hhalf, hhour⟩ := Option.bind_eq_some_iff.mp h
  exact (of_put? hhalf).trans (of_put? hhour)

/-- What a number puts are its own parts. -/
theorem of_putNumber? {n : Number} (h : putNumber? ps v n = some qs) : Gains n.parts ps qs := by
  cases n with
  | hour => exact of_putHour? h
  | daysFromSunday | hourOfHalf =>
    obtain ⟨_, h⟩ := Option.ite_none_right_eq_some.mp h
    exact of_put? h
  | _ => exact of_put? h

/-- Nanoseconds may be missing. -/
theorem of_nanosecond (h : Gains [] ps qs) : Gains [.nanosecond] ps qs := by
  intro q hq
  simp [h q hq, hq]

end Gains

/-! ### Items -/

/-- Whatever is read has these parts besides those that have been read before. -/
def Adds (given : List Part) (ps : Parts) (x : Option Progress) : Prop :=
  ∀ p, x = some p → Gains given ps p.2

namespace Adds

theorem some {cs : List Char} (h : Gains given ps qs) : Adds given ps (some (cs, qs)) := by
  rintro _ ⟨⟩
  exact h

/-- Reading on adds to what has been read. -/
theorem bind {x : Option Progress} {f : Progress → Option Progress} (hx : Adds given ps x)
    (hf : ∀ p, Adds more p.2 (f p)) : Adds (given ++ more) ps (x >>= f) := by
  intro p' h
  obtain ⟨p, hp, h⟩ := Option.bind_eq_some_iff.mp h
  exact (hx p hp).trans (hf p p' h)

/-- What is not a date itself adds no parts. -/
theorem after {α : Type} {x : Option α} {f : α → Option Progress} (hf : ∀ a, Adds given ps (f a)) :
    Adds given ps (x >>= f) := by
  intro p h
  obtain ⟨a, _, h⟩ := Option.bind_eq_some_iff.mp h
  exact hf a p h

theorem of_gains {x : Option Parts} {cs : List Char} (h : ∀ qs, x = .some qs → Gains given ps qs) :
    Adds given ps (x >>= fun qs => .some (cs, qs)) := by
  intro p hp
  obtain ⟨qs, hqs, ⟨⟩⟩ := Option.bind_eq_some_iff.mp hp
  exact h qs hqs

theorem put? {cs : List Char} (p : Part) (v : Int) :
    Adds [p] ps (ps.put? p v >>= fun qs => .some (cs, qs)) := .of_gains fun _ => .of_put?

end Adds

theorem adds_readNumberItem? (n : Number) (p : Progress) :
    Adds n.parts p.2 (readNumberItem? n p) := by
  unfold readNumberItem?
  cases n <;> exact .after fun _ => .of_gains fun _ => .of_putNumber?

theorem adds_readAfterPoint? (read : List Char → Option (Int × List Char)) (p : Progress) :
    Adds [.nanosecond] p.2 (readAfterPoint? read p) := by
  unfold readAfterPoint?
  split
  · exact .after fun _ => .put? _ _
  · exact .some (.of_nanosecond (.refl _))

theorem adds_readOffsetItem? (rules : OffsetRules) (p : Progress) :
    Adds [.offset] p.2 (readOffsetItem? rules p) := by
  unfold readOffsetItem?
  exact .after fun _ => .put? _ _

theorem adds_readStamp? (p : Progress) : Adds Item.stamp.parts p.2 (readStamp? p) := by
  have hnumber := adds_readNumberItem?
  unfold readStamp?
  refine (hnumber .year p).bind fun p => ?_
  refine .after fun _ => (hnumber .month (_, p.2)).bind fun p => ?_
  refine .after fun _ => (hnumber .day (_, p.2)).bind fun p => ?_
  refine .after fun _ => (hnumber .hour (_, p.2)).bind fun p => ?_
  refine .after fun _ => (hnumber .minute (_, p.2)).bind fun p => ?_
  refine .after fun _ => (hnumber .second (_, p.2)).bind fun p => ?_
  refine (adds_readAfterPoint? readFraction? p).bind fun p => ?_
  dsimp only
  split
  · exact .put? _ _
  · exact adds_readOffsetItem? _ _

/-- Each item adds the parts that it is made of, and no others. -/
theorem adds_readItem? (p : Progress) (item : Item) : Adds item.parts p.2 (readItem? p item) := by
  cases item with
  | text _ => exact .after fun _ => .some (.refl _)
  | blank _ | zoneName => exact .some (.refl _)
  | number n _ => exact adds_readNumberItem? n p
  | monthName _ | weekdayName _ => exact .after fun _ => .put? _ _
  | half _ =>
    rw [readItem?]
    cases skipWord? ['a', 'm'] p.1 with
    | some _ => exact .put? _ _
    | none =>
      cases skipWord? ['p', 'm'] p.1 with
      | some _ => exact .put? _ _
      | none => rintro _ ⟨⟩
  | fraction => exact adds_readAfterPoint? _ p
  | digits count point =>
    cases point with
    | true => exact adds_readAfterPoint? _ p
    | false => exact .after fun _ => .put? _ _
  | offset style => cases style <;> exact adds_readOffsetItem? _ p
  | stamp => exact adds_readStamp? p

/-! ### Formats -/

/-- So the parts that are read are those of the format. -/
theorem adds_foldlM_readItem? (items : List Item) (p : Progress) :
    Adds (formatParts items) p.2 (items.foldlM readItem? p) := by
  induction items generalizing p with
  | nil => exact .some (.refl _)
  | cons item items ih =>
    rw [List.foldlM_cons]
    exact (adds_readItem? p item).bind ih

/-- A text in a format has just the parts that the format stands for; only nanoseconds may lack. -/
theorem isSome_get?_of_readItems? {items : List Item} {cs : List Char}
    (h : readItems? items cs = some ps) {q : Part} (hq : q ≠ .nanosecond) :
    (ps.get? q).isSome ↔ q ∈ formatParts items := by
  obtain ⟨p, hp, h⟩ := Option.bind_eq_some_iff.mp h
  have hps : p.2 = ps := by
    split at h
    · cases h
      rfl
    · cases h
  rw [← hps, adds_foldlM_readItem? items (cs, []) p hp q hq]
  simp [Parts.get?]

end RecordExpr.DateFormat
