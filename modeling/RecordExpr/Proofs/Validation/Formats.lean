import RecordExpr.Proofs.Eval.Failure
import RecordExpr.Proofs.Validation.Issues

/-!
# Date formats that validation lets pass

Validation accepts a date format if all its specifiers are known. That is enough for reading, but a
format with the permissive offset `%#z` can be read only, and a date written in it is an error that
validation does not see: not at the conversion, and not in the pattern that belongs to an
expression, whose format faults are left to the conversion. No other fault of a format or a pattern
is missed.

`FaultsOnlyInWriting` says so of an expression, `faultsOnlyInWriting_of_hasErrors` proves it for all
those that validation lets pass, and `patternWrittenIn` is one for every format that is missed.
-/

namespace RecordExpr

open DateFormat

namespace Expr

/-- A pattern that belongs to the expression could not be made. -/
def StoresError (e : Expr) (err : EvalError) : Prop :=
  ∃ n ∈ e.nodes, ∃ anchored source, n.pattern? = some (anchored, source) ∧
    source.fixedPattern? anchored = some (.error err)

/-- Some node writes dates in a format that can be read only. -/
def WritesReadOnly (configured : Option String) (e : Expr) (f : String) : Prop :=
  writeFault? f = some .notWritable ∧ ∃ n ∈ e.nodes, n.writtenFormat? configured = some f

/-- The only format faults, and the only faults of patterns that belong to the expression, are those
of formats that dates are written in but that can be read only. -/
structure FaultsOnlyInWriting (e : Expr) : Prop where
  pattern : ∀ err, e.StoresError err →
    ∃ f, err = .invalidDateFormat f .notWritable ∧ e.WritesReadOnly none f
  format : ∀ env, (∀ f, env.config.dateFormat = some f → ∃ items, dateFormatItems f = .ok items) →
    ∀ f fault, eval env e = .error (.invalidDateFormat f fault) →
      fault = .notWritable ∧ e.WritesReadOnly env.config.dateFormat f

/-! ### Formats that are understood -/

variable {n e : Expr} {configured : Option String} {f : String}

/-- The format that a node writes with is its own or the configured one. -/
theorem eq_of_writtenFormat? (h : n.writtenFormat? configured = some f) :
    (∃ target x, n = convert target x (some f)) ∨ configured = some f := by
  unfold writtenFormat? at h
  split at h
  · next x format =>
    split at h
    · rcases Option.or_eq_some_iff.mp h with rfl | ⟨_, h⟩
      · exact .inl ⟨_, x, rfl⟩
      · exact .inr h
    · cases h
  · split at h
    · exact .inr h
    · cases h
  · cases h

/-- So is the format that it reads with. -/
theorem eq_of_readFormat? (h : n.readFormat? configured = some f) :
    (∃ target x, n = convert target x (some f)) ∨ configured = some f := by
  unfold readFormat? at h
  split at h
  · next x format =>
    split at h
    · rcases Option.or_eq_some_iff.mp h with rfl | ⟨_, h⟩
      · exact .inl ⟨_, x, rfl⟩
      · exact .inr h
    · cases h
  · cases h

/-- A format that can be read is not reported, whatever it is used for. -/
theorem formatIssues_of_items? {items : List Item} (target : Kind) (x : Expr) (path : Path)
    (h : items? f = some items) : (convert target x (some f)).formatIssues path = [] := by
  rw [formatIssues, dateFormatItems, h]

/-- A format that a node gives itself does not depend on the configuration. -/
theorem writtenFormat?_of_none (h : n.writtenFormat? none = some f) (configured : Option String) :
    n.writtenFormat? configured = some f := by
  rcases eq_of_writtenFormat? h with ⟨target, x, rfl⟩ | hf
  · cases target <;> exact h
  · cases hf

end Expr

variable {n e : Expr} {env : Environment} {f : String} {fault : FormatFault}

/-- Validation has seen to it that the formats of nodes are understood. -/
theorem items?_of_format (h : hasErrors (validate e) = false) (hn : n ∈ e.nodes)
    (hc : ∀ f, env.config.dateFormat = some f → items? f ≠ none)
    (hf : (∃ target x, n = .convert target x (some f)) ∨ env.config.dateFormat = some f) :
    items? f ≠ none := by
  rcases hf with ⟨target, x, rfl⟩ | hf
  · exact items?_of_hasErrors h hn
  · exact hc f hf

/-- A node that raises a format fault writes dates in a format that can be read only. -/
theorem notWritable_of_raises (h : hasErrors (validate e) = false) (hn : n ∈ e.nodes)
    (hc : ∀ f, env.config.dateFormat = some f → items? f ≠ none)
    (hr : Raises env n (.invalidDateFormat f fault)) :
    fault = .notWritable ∧ writeFault? f = some .notWritable ∧
      n.writtenFormat? env.config.dateFormat = some f := by
  rcases hr.invalidDateFormat_cases with ⟨hf, hfault⟩ | ⟨hf, hi⟩
  · have hi : items? f ≠ none := items?_of_format h hn hc (Expr.eq_of_writtenFormat? hf)
    cases fault with
    | unknownSpecifier => exact absurd (writeFault?_eq_unknownSpecifier_iff.mp hfault) hi
    | notWritable => exact ⟨rfl, hfault, hf⟩
  · exact absurd hi (items?_of_format h hn hc (Expr.eq_of_readFormat? hf))

/-- After validation, a format is refused for one reason, where it is to write. -/
theorem notWritable_of_eval_error (h : hasErrors (validate e) = false) {x : Expr}
    (hx : ∀ n ∈ x.nodes, n ∈ e.nodes)
    (hc : ∀ f, env.config.dateFormat = some f → items? f ≠ none)
    (he : eval env x = .error (.invalidDateFormat f fault)) :
    fault = .notWritable ∧ e.WritesReadOnly env.config.dateFormat f := by
  obtain ⟨n, hn, hr | ⟨_, hr⟩⟩ := exists_raises_of_eval_error he
  · obtain ⟨hfault, hw, hf⟩ := notWritable_of_raises h (hx n hn) hc hr
    exact ⟨hfault, hw, n, hx n hn, hf⟩
  · -- the constant environment has no format of its own, so the node gives it
    have hnone : ∀ g, Environment.constant.config.dateFormat = some g → items? g ≠ none := by
      intro g hg
      cases hg
    obtain ⟨hfault, hw, hf⟩ := notWritable_of_raises h (hx n hn) hnone hr
    exact ⟨hfault, hw, n, hx n hn, Expr.writtenFormat?_of_none hf _⟩

/-- The faults that validation leaves are all of that kind. -/
theorem faultsOnlyInWriting_of_hasErrors (h : hasErrors (validate e) = false) :
    e.FaultsOnlyInWriting := by
  constructor
  · rintro err ⟨n, hn, anchored, source, hp, hc⟩
    obtain ⟨f, fault, rfl⟩ := error_of_fixedPattern? h hn hp hc
    -- a text that is no pattern is another kind of error, so the source has failed itself
    have hs : eval .constant source = .error (.invalidDateFormat f fault) := by
      obtain ⟨_, ⟨err, hs, he⟩ | ⟨s, _, he⟩⟩ := fixedPattern?_eq_some_iff.mp hc
      · cases he
        exact hs
      · obtain ⟨_, he⟩ := error_of_compilePattern he.symm
        cases he
    have hsub : ∀ m ∈ source.nodes, m ∈ e.nodes := by
      intro m hm
      have hmn := Expr.mem_nodes_of_mem_operands (Expr.mem_operands_of_pattern? hp) hm
      exact Expr.mem_nodes_trans hmn hn
    obtain ⟨rfl, hw⟩ := notWritable_of_eval_error h hsub (by rintro f ⟨⟩) hs
    exact ⟨f, rfl, hw⟩
  · intro env hc f fault he
    refine notWritable_of_eval_error h (fun n hn => hn) (fun g hg hi => ?_) he
    obtain ⟨items, hg⟩ := hc g hg
    have herr := dateFormatItems_eq_error_iff.mpr ⟨hi, rfl⟩
    cases hg.symm.trans herr

/-! ### Formats that are missed -/

/-- A text is matched with the beginning of 1970, written in a format. -/
def patternWrittenIn (f : String) : Expr :=
  .test .fullMatch (.literal (.present (.string ""))) (.pattern true)
    (.convert .string (.literal (.present (.date .epoch))) (some f))

/-- Writing a date shows the fault of the format in every environment. -/
theorem eval_convert_epoch {fault : FormatFault} (h : writeFault? f = some fault)
    (env : Environment) :
    eval env (.convert .string (.literal (.present (.date .epoch))) (some f)) =
      .error (.invalidDateFormat f fault) := by
  have hw : writeDate .epoch (some f) = .error (.invalidDateFormat f fault) :=
    writeDate_eq_error_iff.mpr ⟨f, fault, rfl, h, rfl⟩
  rw [eval_convert]
  show Value.convert _ (some f) .string (.date .epoch) >>= _ = _
  rw [Value.convert_string, Value.render, hw]
  rfl

/-- The text of a fixed date is evaluated with the pattern, and its error is stored. -/
theorem fixedPattern?_epoch {fault : FormatFault} (h : writeFault? f = some fault) :
    (Expr.convert .string (.literal (.present (.date .epoch))) (some f)).fixedPattern? true =
      some (.error (.invalidDateFormat f fault)) := by
  refine fixedPattern?_eq_some_iff.mpr ⟨?_, .inl ⟨_, eval_convert_epoch h _, rfl⟩⟩
  rfl

/-- None of this is reported. -/
theorem validate_patternWrittenIn (h : writeFault? f = some .notWritable) :
    validate (patternWrittenIn f) = [] := by
  obtain ⟨items, hi, _⟩ := writeFault?_eq_notWritable_iff.mp h
  have hf := Expr.formatIssues_of_items? .string (.literal (.present (.date .epoch)))
    [⟨.pattern, none⟩] hi
  have hp : (patternWrittenIn f).patternIssues [] = [] := by
    rw [patternWrittenIn, Expr.patternIssues, Expr.pattern?]
    dsimp only
    rw [fixedPattern?_epoch h, Expr.madeIssues]
  have hl : (patternWrittenIn f).located =
      [([⟨.subject, none⟩], .literal (.present (.string ""))),
        ([⟨.pattern, none⟩, ⟨.operand, none⟩], .literal (.present (.date .epoch))),
        ([⟨.pattern, none⟩], .convert .string (.literal (.present (.date .epoch))) (some f)),
        ([], patternWrittenIn f)] := rfl
  rw [validate, hl]
  simp only [List.flatMap_cons, List.flatMap_nil, Expr.nodeIssues, hf, hp]
  rfl

theorem storesError_patternWrittenIn (h : writeFault? f = some .notWritable) :
    (patternWrittenIn f).StoresError (.invalidDateFormat f .notWritable) :=
  ⟨_, Expr.mem_nodes_self _, _, _, rfl, fixedPattern?_epoch h⟩

theorem eval_patternWrittenIn (h : writeFault? f = some .notWritable) (env : Environment) :
    eval env (patternWrittenIn f) = .error (.invalidDateFormat f .notWritable) := by
  rw [patternWrittenIn, eval_test_pattern, patternOf, fixedPattern?_epoch h]
  rfl

/-- The offset that reads all forms has none to be written in. -/
theorem writeFault?_permissiveOffset : writeFault? "%#z" = some .notWritable := by
  rw [writeFault?_eq_notWritable_iff]
  refine ⟨[.offset .permissive], ?_, List.mem_singleton_self _⟩
  simp [items?, itemsOf?, specifier?]

/-! ### What validation promises -/

/-- Where validation finds no error, all patterns that belong to the expression could be made just
if they met no format that can be read only, and an evaluation has no format fault just if it meets
no such format. -/
theorem no_format_fault_iff (h : hasErrors (validate e) = false) :
    ((∀ err, ¬e.StoresError err) ↔
      ∀ f, e.WritesReadOnly none f → ¬e.StoresError (.invalidDateFormat f .notWritable)) ∧
    ∀ env : Environment,
      (∀ f, env.config.dateFormat = some f → ∃ items, dateFormatItems f = .ok items) →
        ((∀ f fault, eval env e ≠ .error (.invalidDateFormat f fault)) ↔
          ∀ f, e.WritesReadOnly env.config.dateFormat f →
            eval env e ≠ .error (.invalidDateFormat f .notWritable)) := by
  have hw : e.FaultsOnlyInWriting := faultsOnlyInWriting_of_hasErrors h
  constructor
  · constructor
    · intro hs f _
      exact hs _
    · intro hs err herr
      obtain ⟨f, rfl, hf⟩ := hw.pattern err herr
      exact hs f hf herr
  · intro env hc
    constructor
    · intro hs f _
      exact hs f _
    · intro hs f fault herr
      obtain ⟨rfl, hf⟩ := hw.format env hc f fault herr
      exact hs f hf herr

/-- The present year passes validation, and there is no fault in writing it. -/
theorem no_format_fault_of_year :
    validate (.convert .string .now (some "%Y")) = [] ∧
      ∀ f fault, eval .constant (.convert .string .now (some "%Y")) ≠
        .error (.invalidDateFormat f fault) := by
  have hy : items? "%Y" = some [.number .year .zero] := by
    simp [items?, itemsOf?, specifier?, padding?, number?]
  have hi := Expr.formatIssues_of_items? .string .now [] hy
  have hl : (Expr.convert .string .now (some "%Y")).located =
      [([⟨.operand, none⟩], .now), ([], .convert .string .now (some "%Y"))] := rfl
  have hv : validate (.convert .string .now (some "%Y")) = [] := by
    rw [validate, hl]
    simp only [List.flatMap_cons, List.flatMap_nil, Expr.nodeIssues, hi]
    rfl
  have he : hasErrors (validate (.convert .string .now (some "%Y"))) = false := by
    rw [hv]
    rfl
  refine ⟨hv, ((no_format_fault_iff he).2 .constant (by rintro f ⟨⟩)).mpr ?_⟩
  rintro f ⟨hf, n, hn, hw⟩
  -- there is no configured format, so the format is that of the node
  rcases Expr.eq_of_writtenFormat? hw with ⟨target, x, rfl⟩ | hc
  · obtain ⟨rfl, rfl, rfl⟩ : target = .string ∧ x = .now ∧ f = "%Y" := by
      simpa [Expr.nodes_eq, Expr.operands] using hn
    rw [writeFault?_of_items?_eq_some hy] at hf
    simp at hf
  · cases hc

/-- The permissive offset passes validation, though a pattern is stored as an error and evaluations
fail. -/
theorem permissiveOffset_passes_validation :
    validate (patternWrittenIn "%#z") = [] ∧
      (patternWrittenIn "%#z").StoresError (.invalidDateFormat "%#z" .notWritable) ∧
        eval .constant (patternWrittenIn "%#z") =
          .error (.invalidDateFormat "%#z" .notWritable) :=
  ⟨validate_patternWrittenIn writeFault?_permissiveOffset,
    storesError_patternWrittenIn writeFault?_permissiveOffset,
    eval_patternWrittenIn writeFault?_permissiveOffset _⟩

end RecordExpr
