import RecordExpr.Coercion
import RecordExpr.Proofs.Outcome

/-!
# Formats that dates can be written in

A date is written item by item, and one item can only be read: the permissive offset. So whether a
format can be used for writing does not depend on the date (`writeDate_eq_error_iff`), and a format
may be understood without being fit for writing.
-/

namespace RecordExpr

namespace DateFormat

theorem renderItem?_eq_none_iff {i : Instant} {item : Item} :
    renderItem? i item = none ↔ item = .offset .permissive := by
  cases item with
  | offset style => cases style <;> simp [renderItem?, renderOffset?]
  | _ => simp [renderItem?]

theorem mapM_renderItem?_eq_none_iff {i : Instant} {items : List Item} :
    items.mapM (renderItem? i) = none ↔ .offset .permissive ∈ items := by
  induction items with
  | nil => simp
  | cons item items ih =>
    rw [List.mapM_cons, List.mem_cons, ← ih]
    cases h : renderItem? i item with
    | none =>
      rw [renderItem?_eq_none_iff.mp h]
      simp
    | some cs =>
      have hne : Item.offset .permissive ≠ item := by
        rintro rfl
        cases h
      cases items.mapM (renderItem? i) <;> simp [hne]

theorem render?_eq_none_iff {i : Instant} {items : List Item} :
    render? items i = none ↔ .offset .permissive ∈ items := by
  rw [← mapM_renderItem?_eq_none_iff (i := i), render?]
  cases items.mapM (renderItem? i) <;> simp

/-- Why no date can be written in a format, if none can. -/
def writeFault? (format : String) : Option FormatFault :=
  match items? format with
  | none => some .unknownSpecifier
  | some items => if .offset .permissive ∈ items then some .notWritable else none

theorem writeFault?_of_items?_eq_none {format : String} (h : items? format = none) :
    writeFault? format = some .unknownSpecifier := by
  rw [writeFault?, h]

theorem writeFault?_of_items?_eq_some {format : String} {items : List Item}
    (h : items? format = some items) :
    writeFault? format = if .offset .permissive ∈ items then some .notWritable else none := by
  rw [writeFault?, h]

theorem writeFault?_eq_unknownSpecifier_iff {format : String} :
    writeFault? format = some .unknownSpecifier ↔ items? format = none := by
  cases h : items? format with
  | none => simp [writeFault?_of_items?_eq_none h]
  | some items => simp [writeFault?_of_items?_eq_some h]

theorem writeFault?_eq_notWritable_iff {format : String} :
    writeFault? format = some .notWritable ↔
      ∃ items, items? format = some items ∧ .offset .permissive ∈ items := by
  cases h : items? format with
  | none => simp [writeFault?_of_items?_eq_none h]
  | some items => simp [writeFault?_of_items?_eq_some h]

end DateFormat

open DateFormat

theorem dateFormatItems_eq_error_iff {format : String} {err : EvalError} :
    dateFormatItems format = .error err ↔
      items? format = none ∧ err = .invalidDateFormat format .unknownSpecifier := by
  rw [dateFormatItems]
  cases items? format <;> simp [eq_comm]

theorem writeDate_eq_error_iff {i : Instant} {format : Option String} {err : EvalError} :
    writeDate i format = .error err ↔
      ∃ f fault, format = some f ∧ writeFault? f = some fault ∧
        err = .invalidDateFormat f fault := by
  cases format with
  | none => simp [writeDate]
  | some f =>
    rw [writeDate, bind_eq_error_iff, dateFormatItems_eq_error_iff]
    cases h : items? f with
    | none => simp [dateFormatItems, h, writeFault?_of_items?_eq_none h]
    | some items =>
      have hi : dateFormatItems f = .ok items := by rw [dateFormatItems, h]
      by_cases hp : .offset .permissive ∈ items
      · simp [hi, writeFault?_of_items?_eq_some h, hp, render?_eq_none_iff.mpr hp, throw, throwThe,
          MonadExceptOf.throw, eq_comm]
      · obtain ⟨text, ht⟩ := Option.ne_none_iff_exists'.mp (mt (render?_eq_none_iff (i := i)).mp hp)
        simp [hi, writeFault?_of_items?_eq_some h, hp, ht, pure, Except.pure]

end RecordExpr
