import RecordExpr.Dictionary
import RecordExpr.Proofs.Eval.FixedPattern

/-!
# What an evaluation reads

The expression itself says what its evaluations can depend on. They look up the attributes that its
nodes name, ask for the present instant only if a node does, and read the configured date format
only if a node writes or reads dates without a format of its own. Patterns are no exception: their
sources are operands, so what these read is counted.

* `eval_eq_of_usesDateFormat`: where no date format is read, none has an effect.
* `eval_depends_on_names`: sources of attributes that agree on the names in an expression, with the
  same instant if that is asked for, give the same outcome. So the outcome of a constant expression
  is always the same, and a source on top of another one is as good as the two merged
  (`Lookup.Merges`, `Dictionary.over`).
* `eval_eq_or_refuses_of_limitLE`: the limit on texts that are given to patterns decides only which
  evaluations are given up. A lower limit changes nothing else.
-/

namespace RecordExpr

variable {e : Expr} {config : Config} {lookup₁ lookup₂ : Lookup} {now₁ now₂ : Instant}

/-! ### The configured date format -/

/-- An expression that does not use the configured date format has the same outcome with any other
one. -/
theorem eval_eq_of_usesDateFormat (h : e.usesDateFormat = false) (lookup : Lookup) (now : Instant)
    {c d : Config} (hl : c.maxPatternInput = d.maxPatternInput) :
    eval ⟨lookup, now, c⟩ e = eval ⟨lookup, now, d⟩ e := by
  have hi : SameInputs ⟨lookup, now, c⟩ ⟨lookup, now, d⟩ e := by
    refine ⟨fun _ _ => rfl, fun _ => rfl, fun hf => ?_⟩
    rw [h] at hf
    cases hf
  exact hi.eval_eq hl

/-- Dates are written in formats of their own here, one of them in the source of a pattern. -/
theorem eval_eq_of_usesDateFormat_of_explicit_formats :
    let year := Expr.convert .string (.convert .date (.attr "day") (some "%F")) (some "%Y")
    let e := Expr.test .find year (.pattern false)
      (.concat [.literal (.present (.string "^")), .convert .string .now (some "%Y")])
    let record : Lookup := fun _ => some "1970-01-01"
    e.usesDateFormat = false ∧
      eval ⟨record, .epoch, ⟨some "%H", some 100⟩⟩ e =
        eval ⟨record, .epoch, ⟨none, some 100⟩⟩ e := by
  intro year e record
  have h : e.usesDateFormat = false := rfl
  exact ⟨h, eval_eq_of_usesDateFormat h record .epoch rfl⟩

/-! ### Attributes and the clock -/

/-- The second source with the entries of the first one in the place of its own. -/
structure Lookup.Merges (first second merged : Lookup) : Prop where
  overriding : ∀ name value, first name = some value → merged name = some value
  remaining : ∀ name, first name = none → merged name = second name

theorem Lookup.Merges.over_eq {first second merged : Lookup} (h : Merges first second merged) :
    Lookup.over first second = merged := by
  funext name
  rw [Lookup.over]
  cases hf : first name with
  | none => rw [Option.none_or, h.remaining name hf]
  | some value => rw [Option.some_or, h.overriding name value hf]

/-- The second dictionary with the entries of the first one in the place of its own. -/
def Dictionary.over {α : Type} (first second : Dictionary α) : Dictionary α :=
  first.entries.foldr (fun entry d => d.insert entry.1 entry.2) second

theorem Dictionary.get?_over {α : Type} (first second : Dictionary α) (name : String) :
    (first.over second).get? name = (first.get? name).or (second.get? name) := by
  show (first.entries.foldr _ second).get? name = (first.entries.lookup name).or (second.get? name)
  induction first.entries with
  | nil => rfl
  | cons entry entries ih =>
    rw [List.foldr_cons, get?_insert, ih, List.lookup_cons]
    by_cases h : name = entry.1
    · rw [if_pos h, beq_iff_eq.mpr h, Option.some_or]
    · rw [if_neg h, beq_eq_false_iff_ne.mpr h]

theorem Dictionary.merges_over (first second : Dictionary String) :
    Lookup.Merges first.get? second.get? (first.over second).get? where
  overriding name value h := by rw [get?_over, h, Option.some_or]
  remaining name h := by rw [get?_over, h, Option.none_or]

/-- Two environments with the same values for the names of a tree evaluate it alike. -/
theorem eval_eq_of_names (hl : ∀ name, .attr name ∈ e.nodes → lookup₁ name = lookup₂ name)
    (ht : .now ∈ e.nodes → now₁ = now₂) :
    eval ⟨lookup₁, now₁, config⟩ e = eval ⟨lookup₂, now₂, config⟩ e :=
  SameInputs.eval_eq ⟨hl, ht, fun _ => rfl⟩ rfl

/-- An evaluation depends on nothing but the attributes that the expression names, and on the
instant only if the expression asks for it. So a constant expression always has the same outcome,
and of two sources of attributes on top of each other no expression can tell that they have not been
merged. -/
theorem eval_depends_on_names (e : Expr) (config : Config) :
    (∀ lookup₁ lookup₂ now₁ now₂, (∀ name, .attr name ∈ e.nodes → lookup₁ name = lookup₂ name) →
      (.now ∈ e.nodes → now₁ = now₂) →
        eval ⟨lookup₁, now₁, config⟩ e = eval ⟨lookup₂, now₂, config⟩ e) ∧
    (e.isConstant → ∀ lookup₁ lookup₂ now₁ now₂,
      eval ⟨lookup₁, now₁, config⟩ e = eval ⟨lookup₂, now₂, config⟩ e) ∧
    (∀ first second merged now, Lookup.Merges first second merged →
      eval ⟨.over first second, now, config⟩ e = eval ⟨merged, now, config⟩ e) ∧
    ∀ (first second : Dictionary String) (now : Instant),
      eval ⟨.over first.get? second.get?, now, config⟩ e =
        eval ⟨(first.over second).get?, now, config⟩ e := by
  refine ⟨fun _ _ _ _ hl ht => eval_eq_of_names hl ht, ?_, ?_, ?_⟩
  · intro h lookup₁ lookup₂ now₁ now₂
    refine eval_eq_of_names (fun name hn => ?_) fun hn => ?_
    · -- a constant has no node that would read anything
      cases Expr.readsContext_of_isConstant h hn
    · cases Expr.readsContext_of_isConstant h hn
  · intro first second merged now h
    rw [h.over_eq]
  · intro first second now
    rw [(Dictionary.merges_over first second).over_eq]

/-- The name in the source of a pattern is all that matters here, at any time, and a record is as
good as that name on top of it. In a constant source nothing matters. -/
theorem eval_depends_on_names_of_pattern_source :
    let dynamic := Expr.test .find (.literal (.present (.string "x"))) (.pattern false) (.attr "p")
    let constant := Expr.test .find (.literal (.present (.string "x"))) (.pattern false)
      (.concat [.literal (.present (.string "[")), .literal (.present (.string "x]"))])
    let named : Lookup := fun name => if name = "p" then some "[a-z]" else none
    let record : Lookup := fun name => if name = "p" then some "[a-z]" else some "?"
    let later : Instant := ⟨1, 0, by decide, by decide, by decide, by decide⟩
    eval ⟨named, .epoch, .default⟩ dynamic = eval ⟨record, later, .default⟩ dynamic ∧
      eval ⟨.over named record, later, .default⟩ dynamic = eval ⟨record, later, .default⟩ dynamic ∧
        eval ⟨named, .epoch, .default⟩ constant = eval ⟨record, later, .default⟩ constant := by
  intro dynamic constant named record later
  obtain ⟨hnames, _, hmerged, _⟩ := eval_depends_on_names dynamic .default
  refine ⟨hnames _ _ _ _ ?_ ?_, hmerged _ _ _ _ ⟨?_, ?_⟩, ?_⟩
  · intro name hn
    obtain rfl : name = "p" := by simpa [dynamic, Expr.nodes_eq, Expr.operands] using hn
    rfl
  · intro hn
    simp [dynamic, Expr.nodes_eq, Expr.operands] at hn
  · intro name value h
    by_cases hp : name = "p" <;> simp_all [named, record]
  · intro name _
    rfl
  · exact (eval_depends_on_names constant .default).2.1 rfl _ _ _ _

/-! ### The limit on texts for patterns -/

/-- Where the first of two limits is the lower one, an evaluation under it has the outcome that it
has under the second, whether that is a result or an error, unless the first refuses a text. -/
theorem eval_eq_or_refuses_of_limitLE (e : Expr) (lookup : Lookup) (now : Instant) {c d : Config}
    (hf : c.dateFormat = d.dateFormat) (hl : LimitLE c.maxPatternInput d.maxPatternInput) :
    eval ⟨lookup, now, c⟩ e = eval ⟨lookup, now, d⟩ e ∨ RefusesText ⟨lookup, now, c⟩ e := by
  have hi : SameInputs ⟨lookup, now, c⟩ ⟨lookup, now, d⟩ e :=
    ⟨fun _ _ => rfl, fun _ => rfl, fun _ => hf⟩
  exact hi.eval_same (checkPatternInput_same hl)

/-- What a pattern is made of depends on another pattern here. The text of three bytes that this one
is sought in passes both limits, and the text of five bytes passes only the higher one. -/
theorem eval_eq_or_refuses_of_limitLE_in_source :
    let dashed := Expr.test .find (.attr "p") (.pattern false) (.literal (.present (.string "-")))
    let source := Expr.ifElse dashed (.literal (.present (.string "ab"))) (.attr "p")
    let e := Expr.ifElse (.test .find (.attr "s") (.pattern false) source) (.attr "s") (.attr "p")
    let record : Lookup := fun name => if name = "p" then some "a-b" else some "xxaby"
    let under (limit : Option Nat) : Environment := ⟨record, .epoch, ⟨none, limit⟩⟩
    LimitLE (some 5) none ∧ eval (under (some 5)) e = eval (under none) e ∧
      LimitLE (some 4) (some 5) ∧ RefusesText (under (some 4)) e := by
  intro dashed source e record under
  have hnone : LimitLE (some 5) none := by
    rintro limit ⟨⟩
  have hfour : LimitLE (some 4) (some 5) := by
    rintro _ ⟨⟩
    exact ⟨4, by decide, rfl⟩
  have hfive : eval (under (some 5)) e = .ok (.present (.string "xxaby")) := rfl
  refine ⟨hnone, ?_, hfour, ?_⟩
  · have h : eval (under (some 5)) e = eval (under none) e ∨ RefusesText (under (some 5)) e :=
      eval_eq_or_refuses_of_limitLE e record .epoch (Eq.refl none) hnone
    refine h.resolve_right ?_
    rintro ⟨err, _, he⟩
    cases he.symm.trans hfive
  · have h : eval (under (some 4)) e = eval (under (some 5)) e ∨ RefusesText (under (some 4)) e :=
      eval_eq_or_refuses_of_limitLE e record .epoch (Eq.refl none) hfour
    refine h.resolve_left fun he => ?_
    have hrefused : eval (under (some 4)) e = .error (.inputTooLarge 5 4) := rfl
    cases (hrefused.symm.trans he).trans hfive

end RecordExpr
