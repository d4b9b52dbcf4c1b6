import RecordExpr.Coercion
import RecordExpr.Proofs.Outcome
import RecordExpr.Proofs.Date.PartsGiven

/-!
# Dates read as midnight

The parts that a text has are put together in the first of three ways in which they make something:
as an instant, as a local time, which is taken as universal time, and as a day, of which midnight is
taken (`Parts.reading`, `read?_eq`). The last way drops every part that is not one of the day.

Whether midnight is taken depends on the timestamp. Without one, an instant and a local time are
possible just if the parts fix a time of day (`Parts.FixesTime`), which the format tells but for
nanoseconds. With a timestamp no part can be lacking, since it stands in for all of them
(`errors_localTime`), so that nothing but a contradiction leads to midnight.
-/

namespace RecordExpr

namespace DateFormat

/-- A way to make an instant of the parts of a date. -/
inductive Reading
  /-- from an offset or a timestamp -/
  | instant
  /-- with local time as universal time -/
  | localTime
  /-- the beginning of the day -/
  | midnight
  deriving DecidableEq

namespace Parts

variable {ps qs : Parts} {d t offset : Int}

/-- The instant that the parts make in one of the ways. -/
def readAs? (ps : Parts) : Reading → Option Instant
  | .instant => found ps.instant
  | .localTime => do
    let (second, nano) ← found (ps.localTime 0)
    Instant.ofParts? second nano
  | .midnight => do Instant.ofParts? ((← found ps.day) * secondsPerDay) 0

/-- The way in which the parts are read. -/
def reading (ps : Parts) : Reading :=
  match ps.instant with
  | .ok _ => .instant
  | .error _ =>
    match ps.localTime 0 with
    | .ok _ => .localTime
    | .error _ => .midnight

/-- The last way to read a date is taken when the others have failed. -/
theorem reading_eq_midnight_iff :
    ps.reading = .midnight ↔ (∀ i, ps.instant ≠ .ok i) ∧ ∀ m, ps.localTime 0 ≠ .ok m := by
  unfold reading
  cases ps.instant <;> cases ps.localTime 0 <;> simp

/-- It takes the day alone. -/
theorem day_of_reading_midnight {i : Instant} (hr : ps.reading = .midnight)
    (h : ps.readAs? ps.reading = some i) : ∃ d, ps.day = .ok d := by
  rw [hr] at h
  obtain ⟨d, hd, _⟩ := Option.bind_eq_some_iff.mp h
  cases hday : ps.day with
  | error _ =>
    rw [hday] at hd
    cases hd
  | ok d => exact ⟨d, rfl⟩

/-! ### Without a timestamp -/

/-- The parts fix a time of day. -/
structure FixesTime (ps : Parts) : Prop where
  half : (ps.get? .half).isSome
  hourInHalf : (ps.get? .hourInHalf).isSome
  minute : (ps.get? .minute).isSome
  second : (ps.get? .nanosecond).isSome → (ps.get? .second).isSome

theorem required_eq_ok_iff {p : Part} {v : Int} :
    ps.required p = .ok v ↔ ps.get? p = some v := by
  unfold required
  cases ps.get? p <;> simp

/-- A time of day needs its hour, its minute and a second that belongs to them. -/
theorem timeOfDay_eq_ok_iff : (∃ m, ps.timeOfDay = .ok m) ↔ ps.FixesTime := by
  constructor
  · rintro ⟨m, h⟩
    obtain ⟨half, hhalf, h⟩ := bind_eq_ok_iff.mp h
    obtain ⟨hour, hhour, h⟩ := bind_eq_ok_iff.mp h
    obtain ⟨minute, hminute, h⟩ := bind_eq_ok_iff.mp h
    rw [required_eq_ok_iff] at hhalf hhour hminute
    refine ⟨Option.isSome_of_eq_some hhalf, Option.isSome_of_eq_some hhour,
      Option.isSome_of_eq_some hminute, fun hnano => ?_⟩
    obtain ⟨nano, hnano⟩ := Option.isSome_iff_exists.mp hnano
    cases hsecond : ps.get? .second with
    | some _ => rfl
    | none =>
      rw [hsecond, hnano] at h
      cases h
  · rintro ⟨hhalf, hhour, hminute, hsecond⟩
    obtain ⟨half, hhalf⟩ := Option.isSome_iff_exists.mp hhalf
    obtain ⟨hour, hhour⟩ := Option.isSome_iff_exists.mp hhour
    obtain ⟨minute, hminute⟩ := Option.isSome_iff_exists.mp hminute
    rw [timeOfDay, required_eq_ok_iff.mpr hhalf, required_eq_ok_iff.mpr hhour,
      required_eq_ok_iff.mpr hminute]
    simp only [bind, Except.bind, pure, Except.pure]
    split
    · next hs hn =>
      -- nanoseconds without a second have been ruled out
      rw [hs, hn] at hsecond
      cases hsecond rfl
    · split
      · exact ⟨_, rfl⟩
      · exact ⟨_, rfl⟩

/-- A missing part is not taken for one that cannot be. -/
theorem errors_required (p : Part) : ErrorsIn (· = .incomplete) (ps.required p) := by
  unfold required
  split
  · exact .ok _
  · exact .error rfl

/-- Nothing is impossible in a time of day, since its parts are in their ranges. -/
theorem errors_timeOfDay : ErrorsIn (· = .incomplete) ps.timeOfDay := by
  unfold timeOfDay
  refine (errors_required _).bind fun half _ => ?_
  refine (errors_required _).bind fun hour _ => ?_
  refine (errors_required _).bind fun minute _ => ?_
  dsimp only
  split
  · exact .error rfl
  · refine (ErrorsIn.ok _).bind fun nano _ => ?_
    split
    · exact .ok _
    · exact .ok _

/-- Without a timestamp, a local time is a day and a time of day. -/
theorem localTime_eq_ok_iff (h : ps.get? .timestamp = none) :
    (∃ m, ps.localTime offset = .ok m) ↔ (∃ d, ps.day = .ok d) ∧ ps.FixesTime := by
  rw [← timeOfDay_eq_ok_iff, localTime, h]
  rcases ps.day with (_ | _) | d <;> rcases ps.timeOfDay with (_ | _) | ⟨second, nano⟩ <;> simp

/-! ### With a timestamp -/

/-- A year that is given is the year, unless its century or the rest contradicts. -/
theorem resolveYear_some (year : Int) (hundreds rest : Option Int) :
    resolveYear (some year) hundreds rest = .ok (some year) ∨
      resolveYear (some year) hundreds rest = .error .impossible := by
  cases hundreds <;> cases rest
  · exact .inl rfl
  all_goals
    simp only [resolveYear]
    split
    · exact .inl rfl
    · exact .inr rfl

/-- Only a century without the rest of its year is incomplete. -/
theorem errors_resolveYear_none (year rest : Option Int) :
    ErrorsIn (· = .impossible) (resolveYear year none rest) := by
  cases year with
  | some year =>
    rcases resolveYear_some year none rest with h | h
    · exact h ▸ .ok _
    · exact h ▸ .error rfl
  | none =>
    cases rest with
    | none => exact .ok _
    | some rest => exact .ok _

/-- Parts that have a year and a day of the year are enough for a day. -/
theorem errors_day (hyear : (ps.get? .year).isSome) (hday : (ps.get? .dayOfYear).isSome) :
    ErrorsIn (· = .impossible) ps.day := by
  obtain ⟨year, hyear⟩ := Option.isSome_iff_exists.mp hyear
  obtain ⟨dayOfYear, hday⟩ := Option.isSome_iff_exists.mp hday
  unfold day proposedDay
  refine .bind ?_ fun d _ => ?_
  · rw [hyear, hday]
    rcases resolveYear_some year (ps.get? .century) (ps.get? .yearOfCentury) with h | h
    · rw [h]
      refine (ErrorsIn.ok _).bind fun _ hyear => ?_
      cases hyear
      refine (errors_resolveYear_none _ _).bind fun weekYear _ => ?_
      -- the day of the year comes second, after a month and a day of it
      dsimp only
      split
      · split
        · exact .ok _
        · exact .error rfl
      · split
        · exact .ok _
        · exact .error rfl
    · rw [h]
      exact .error rfl
  · split
    · exact .ok _
    · exact .error rfl

/-- A timestamp fills in the parts that are missing, or contradicts one that was read. -/
theorem completed_cases (ps : Parts) (t offset : Int) :
    ps.completed t offset = .error .impossible ∨
      ∃ moment qs, ps.putMoment? (ps.get? .second ≠ some 60) moment = some qs ∧
        ps.completed t offset = .ok qs := by
  unfold completed
  dsimp only
  generalize (if ps.get? .second = some 60 ∧ (t + offset) % 60 = 0 then t + offset - 1
    else t + offset) = moment
  split
  · exact .inl rfl
  split
  · exact .inl rfl
  split
  · next h => exact .inr ⟨moment, _, by simpa using h, rfl⟩
  · exact .inl rfl

/-- The parts that a timestamp fills in, the second among them if it is not a leap second. -/
theorem gains_of_putMoment? {withSecond : Bool} {second : Int}
    (h : ps.putMoment? withSecond second = some qs) :
    Gains ((if withSecond then [.second] else []) ++
      [.year, .dayOfYear, .half, .hourInHalf, .minute]) ps qs := by
  -- all but the second, which is put first
  have hrest : ∀ (ps : Parts) (year dayOfYear hour minute : Int),
      (do
        let ps ← ps.put? .year year
        let ps ← ps.put? .dayOfYear dayOfYear
        let ps ← ps.putHour? hour
        ps.put? .minute minute) = some qs →
      Gains [.year, .dayOfYear, .half, .hourInHalf, .minute] ps qs := by
    intro ps year dayOfYear hour minute h
    obtain ⟨_, hyear, h⟩ := Option.bind_eq_some_iff.mp h
    obtain ⟨_, hday, h⟩ := Option.bind_eq_some_iff.mp h
    obtain ⟨_, hhour, h⟩ := Option.bind_eq_some_iff.mp h
    exact (Gains.of_put? hyear).trans <| (Gains.of_put? hday).trans <|
      (Gains.of_putHour? hhour).trans (.of_put? h)
  unfold putMoment? at h
  cases withSecond with
  | false => exact (Gains.refl ps).trans (hrest _ _ _ _ _ h)
  | true =>
    obtain ⟨_, hsecond, h⟩ := Option.bind_eq_some_iff.mp h
    exact (Gains.of_put? hsecond).trans (hrest _ _ _ _ _ h)

/-- The timestamp of a date gives all parts of the day and of the time of day. -/
theorem fixesTime_of_completed (h : ps.completed t offset = .ok qs) :
    (qs.get? .year).isSome ∧ (qs.get? .dayOfYear).isSome ∧ qs.FixesTime := by
  rcases completed_cases ps t offset with herror | ⟨moment, qs', hput, hqs'⟩
  · rw [herror] at h
    cases h
  rw [h] at hqs'
  cases hqs'
  have hgains := gains_of_putMoment? hput
  have hgiven : ∀ q ∈ [Part.year, .dayOfYear, .half, .hourInHalf, .minute],
      q ≠ .nanosecond → (qs.get? q).isSome := fun q hq hnano =>
    (hgains q hnano).mpr (.inl (List.mem_append_right _ hq))
  refine ⟨hgiven _ (by decide) nofun, hgiven _ (by decide) nofun, hgiven _ (by decide) nofun,
    hgiven _ (by decide) nofun, hgiven _ (by decide) nofun, fun _ => ?_⟩
  -- a leap second is the only second that the moment does not bring along
  refine (hgains .second nofun).mpr ?_
  by_cases hleap : ps.get? .second = some 60
  · exact .inr (by rw [hleap]; rfl)
  · exact .inl (by simp [hleap])

/-- A timestamp leaves nothing incomplete. -/
theorem errors_localTime (hd : ps.day = .ok d) (ht : ps.get? .timestamp = some t) (offset : Int) :
    ErrorsIn (· = .impossible) (ps.localTime offset) := by
  unfold localTime
  rw [hd, ht]
  cases htime : ps.timeOfDay with
  | ok time =>
    dsimp only
    split
    · exact .ok _
    · exact .error rfl
  | error err =>
    rw [errors_timeOfDay err htime]
    -- the time of day is lacking, so the timestamp gives the day as well
    refine .bind (fun err h => ?_) fun qs hqs => ?_
    · rcases completed_cases ps t offset with herror | ⟨_, _, _, hok⟩
      · rw [herror] at h
        cases h
        rfl
      · rw [hok] at h
        cases h
    · obtain ⟨hyear, hday, htime⟩ := fixesTime_of_completed hqs
      obtain ⟨time, htime⟩ := timeOfDay_eq_ok_iff.mpr htime
      refine (errors_day hyear hday).bind fun d _ => ?_
      rw [htime]
      exact .ok _

/-- That holds with an offset as well. -/
theorem errors_instant (hd : ps.day = .ok d) (ht : ps.get? .timestamp = some t) :
    ErrorsIn (· = .impossible) ps.instant := by
  unfold instant
  rw [ht]
  cases ps.get? .offset with
  | none | some _ =>
    refine (ErrorsIn.ok _).bind fun offset _ => ?_
    refine (errors_localTime hd ht offset).bind fun m _ => ?_
    dsimp only
    split
    · exact .error rfl
    split
    · exact .ok _
    · exact .error rfl

/-- Without a timestamp, an instant has its time from parts that were read. -/
theorem fixesTime_of_instant {i : Instant} (ht : ps.get? .timestamp = none)
    (h : ps.instant = .ok i) : ps.FixesTime := by
  unfold instant at h
  rw [ht] at h
  cases hoffset : ps.get? .offset with
  | none =>
    rw [hoffset] at h
    cases h
  | some offset =>
    rw [hoffset] at h
    obtain ⟨_, ⟨⟩, h⟩ := bind_eq_ok_iff.mp h
    obtain ⟨m, hm, _⟩ := bind_eq_ok_iff.mp h
    exact ((localTime_eq_ok_iff ht).mp ⟨_, hm⟩).2

/-! ### Midnight -/

/-- Midnight is taken of parts without a time of day, and of parts with a timestamp that contradicts
the others, with their offset and without. -/
theorem reading_eq_midnight_iff_of_readAs? {i : Instant} (h : ps.readAs? ps.reading = some i) :
    ps.reading = .midnight ↔
      ps.get? .timestamp = none ∧ ¬ps.FixesTime ∨
      (ps.get? .timestamp).isSome ∧ ps.instant = .error .impossible ∧
        ps.localTime 0 = .error .impossible := by
  constructor
  · intro hr
    obtain ⟨d, hd⟩ := day_of_reading_midnight hr h
    obtain ⟨hinstant, hlocal⟩ := reading_eq_midnight_iff.mp hr
    cases ht : ps.get? .timestamp with
    | none =>
      refine .inl ⟨rfl, fun hfixes => ?_⟩
      obtain ⟨m, hm⟩ := (localTime_eq_ok_iff ht).mpr ⟨⟨d, hd⟩, hfixes⟩
      exact hlocal m hm
    | some t =>
      refine .inr ⟨rfl, ?_, ?_⟩
      · -- the day is known, so a timestamp can only contradict
        cases h : ps.instant with
        | ok i => exact absurd h (hinstant i)
        | error err => rw [errors_instant hd ht err h]
      · cases h : ps.localTime 0 with
        | ok m => exact absurd h (hlocal m)
        | error err => rw [errors_localTime hd ht 0 err h]
  · rintro (⟨ht, hfixes⟩ | ⟨-, hinstant, hlocal⟩)
    · exact reading_eq_midnight_iff.mpr ⟨fun i hi => hfixes (fixesTime_of_instant ht hi),
        fun m hm => hfixes ((localTime_eq_ok_iff ht).mp ⟨m, hm⟩).2⟩
    · rw [reading, hinstant, hlocal]

end Parts

/-- The reader, with the way that it takes named. -/
theorem read?_eq (items : List Item) (cs : List Char) :
    read? items cs = (readItems? items cs).bind fun ps => ps.readAs? ps.reading := by
  unfold read?
  refine bind_congr fun ps => ?_
  unfold Parts.reading
  cases hinstant : ps.instant with
  | ok i =>
    rw [Parts.readAs?, hinstant]
    rfl
  | error _ =>
    cases hlocal : ps.localTime 0 with
    | ok m =>
      rw [Parts.readAs?, hlocal]
      rfl
    | error _ => rfl

end DateFormat

open DateFormat

variable {text format : String} {i : Instant}

/-- What it means to read a date in a given format. -/
theorem readDate_eq_ok_iff :
    readDate text (some format) = .ok i ↔
      ∃ items ps, items? format = some items ∧
        readItems? items (Text.trimmed text.toList) = some ps ∧ ps.readAs? ps.reading = some i := by
  rw [readDate, dateFormatItems]
  cases items? format with
  | none => simp [bind, Except.bind]
  | some items =>
    show orCoercionError text .date (read? items _) = .ok i ↔ _
    rw [read?_eq]
    cases hparts : readItems? items (Text.trimmed text.toList) with
    | none => simp [orCoercionError, hparts]
    | some ps => cases h : ps.readAs? ps.reading <;> simp [orCoercionError, hparts, h]

/-- A date in a format is read as midnight in two cases only. The format has no timestamp and lacks
something that fixes a time of day: the half of the day, the hour in it, the minute, or the second
where a fraction of it is given. Or the text has a timestamp that contradicts its other parts. -/
theorem readDate_at_midnight_iff (h : readDate text (some format) = .ok i) :
    ∃ items ps, items? format = some items ∧
      readItems? items (Text.trimmed text.toList) = some ps ∧ ps.readAs? ps.reading = some i ∧
      (ps.reading = .midnight ↔
        .timestamp ∉ formatParts items ∧
          (.half ∉ formatParts items ∨ .hourInHalf ∉ formatParts items ∨
            .minute ∉ formatParts items ∨
            (ps.get? .nanosecond).isSome ∧ .second ∉ formatParts items) ∨
        .timestamp ∈ formatParts items ∧ ps.instant = .error .impossible ∧
          ps.localTime 0 = .error .impossible) := by
  obtain ⟨items, ps, hitems, hparts, hi⟩ := readDate_eq_ok_iff.mp h
  refine ⟨items, ps, hitems, hparts, hi, ?_⟩
  have hgiven : ∀ q ≠ .nanosecond, (ps.get? q).isSome ↔ q ∈ formatParts items := fun _ =>
    isSome_get?_of_readItems? hparts
  -- a fraction may be missing in the text although the format has one, so it is asked of the parts
  have hfixes : ps.FixesTime ↔ .half ∈ formatParts items ∧ .hourInHalf ∈ formatParts items ∧
      .minute ∈ formatParts items ∧
      ((ps.get? .nanosecond).isSome → .second ∈ formatParts items) := by
    rw [← hgiven .half nofun, ← hgiven .hourInHalf nofun, ← hgiven .minute nofun,
      ← hgiven .second nofun]
    exact ⟨fun h => ⟨h.half, h.hourInHalf, h.minute, h.second⟩,
      fun ⟨hhalf, hhour, hminute, hsecond⟩ => ⟨hhalf, hhour, hminute, hsecond⟩⟩
  rw [Parts.reading_eq_midnight_iff_of_readAs? hi, hfixes, ← hgiven .timestamp nofun,
    Option.not_isSome_iff_eq_none]
  simp only [Classical.not_and_iff_not_or_not, Classical.not_imp]

/-- A format with a time of day down to the second has neither gap. -/
theorem readDate_at_midnight_iff_down_to_the_second :
    ∃ i items ps, readDate "2021-03-04 05:06:07" (some "%Y-%m-%d %H:%M:%S") = .ok i ∧
      i.secondOfDay = 5 * 3600 + 6 * 60 + 7 ∧
      items? "%Y-%m-%d %H:%M:%S" = some items ∧
      readItems? items (Text.trimmed "2021-03-04 05:06:07".toList) = some ps ∧
      ps.readAs? ps.reading = some i ∧ ps.reading ≠ .midnight := by
  have hitems : items? "%Y-%m-%d %H:%M:%S" = some [.number .year .zero, .text '-',
      .number .month .zero, .text '-', .number .day .zero, .blank ' ', .number .hour .zero,
      .text ':', .number .minute .zero, .text ':', .number .second .zero] := by
    simp [items?, itemsOf?, specifier?, padding?, number?, compound?, Text.isBlank]
  have hdate : readDate "2021-03-04 05:06:07" (some "%Y-%m-%d %H:%M:%S") =
      .ok ⟨1614834367, 0, by decide, by decide, by decide, by decide⟩ := by
    rw [readDate, dateFormatItems, hitems]
    rfl
  obtain ⟨items, ps, hitems', hparts, hi, hiff⟩ := readDate_at_midnight_iff hdate
  refine ⟨_, items, ps, hdate, rfl, hitems', hparts, hi, fun hr => ?_⟩
  obtain rfl := Option.some.inj (hitems.symm.trans hitems')
  rcases hiff.mp hr with ⟨-, h | h | h | ⟨-, h⟩⟩ | ⟨h, -⟩ <;> revert h <;> decide

/-- An hour without a minute is dropped, although the format has it and the text gives it. -/
theorem readDate_at_midnight_with_hour :
    ∃ items ps i, items? "%Y-%m-%d %H" = some items ∧ .hourInHalf ∈ formatParts items ∧
      readItems? items (Text.trimmed "2021-03-04 05".toList) = some ps ∧
      ps.get? .hourInHalf = some 5 ∧ ps.reading = .midnight ∧
      readDate "2021-03-04 05" (some "%Y-%m-%d %H") = .ok i ∧ i.secondOfDay = 0 := by
  have hitems : items? "%Y-%m-%d %H" = some [.number .year .zero, .text '-',
      .number .month .zero, .text '-', .number .day .zero, .blank ' ', .number .hour .zero] := by
    simp [items?, itemsOf?, specifier?, padding?, number?, compound?, Text.isBlank]
  have hdate : readDate "2021-03-04 05" (some "%Y-%m-%d %H") =
      .ok ⟨1614816000, 0, by decide, by decide, by decide, by decide⟩ := by
    rw [readDate, dateFormatItems, hitems]
    rfl
  exact ⟨_, _, _, hitems, by decide, rfl, rfl, rfl, hdate, rfl⟩

end RecordExpr
