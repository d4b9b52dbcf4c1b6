import RecordExpr.Proofs.Regex.Spans
import RecordExpr.Proofs.Regex.TokensInside
import RecordExpr.Regex.Pattern

/-!
# Anchored patterns

An anchored pattern is the pattern in a group between the beginning and the end of the text. It
stands for the node of the pattern between two tests (`build_tokensInGroup`), so it matches just
what the pattern matches as a whole.

Whether it is accepted is another matter, since the group is put around the text of the pattern and
not around its meaning. A comment at the end of a pattern swallows the end of the group, and a
pattern that is refused for a closing parenthesis without an opening one may be accepted, as its
parenthesis closes the group (`compile_anchored`). Such a pattern need not match a whole text
(`anchored_differs_in_acceptance`).
-/

namespace RecordExpr.Regex

namespace Builder

/-- The state inside a group that starts at the beginning of the text. -/
def inside (b : Builder) : Builder :=
  { b with around := b.around ++ [⟨[⟨.look .textStart, 0, false⟩], [], .initial, none⟩] }

/-- What is read does not depend on the group, only where it is put. -/
theorem bind_inside {α : Type} (x : Except Fault α) {put put' : α → Builder}
    (h : ∀ a, put' a = (put a).inside) :
    (do return put' (← x)) = (do return put (← x) : Except Fault Builder).map inside := by
  cases x with
  | error f => rfl
  | ok a => exact congrArg Except.ok (h a)

theorem step_inside (b : Builder) {t : Token} (h : t = .closeGroup → b.around ≠ []) :
    b.inside.step t = (b.step t).map inside := by
  cases t with
  | literal l => exact bind_inside (literalNode b.flags l) fun _ => rfl
  | dot => exact bind_inside (dotNode b.flags) fun _ => rfl
  | anchor a => rfl
  | named c => exact bind_inside (namedSet b.flags c) fun _ => rfl
  -- names and flags of the groups are the same inside, and are all that a class asks for
  | bracket negated s =>
    rw [step, step, show b.inside.flags = b.flags from rfl]
    cases bracketSet b.flags s with
    | error f => rfl
    | ok set => exact bind_inside (foldAndNegate b.flags negated set) fun _ => rfl
  | openGroup k =>
    match k with
    | .plain settings => rfl
    | .capture none => rfl
    | .capture (some name) =>
      rw [step, step, show b.inside.names = b.names from rfl]
      split <;> rfl
  | closeGroup =>
    obtain ⟨s, around, ha⟩ := List.exists_cons_of_ne_nil (h rfl)
    rw [step, step, inside, ha]
    rfl
  | bar => rfl
  | settings s => rfl
  -- it takes the last item, which is not from around
  | repetition least most greedy =>
    rw [step, step, show b.inside.items = b.items from rfl]
    cases b.items with
    | nil => rfl
    | cons p ps =>
      dsimp only
      split <;> rfl

theorem foldlM_step_inside (b : Builder) {ts : List Token}
    (h : ts.foldlM step b ≠ .error .unopenedGroup) :
    ts.foldlM step b.inside = (ts.foldlM step b).map inside := by
  induction ts generalizing b with
  | nil => rfl
  | cons t ts ih =>
    rw [List.foldlM_cons] at h
    have hopen : t = .closeGroup → b.around ≠ [] := by
      rintro rfl ha
      exact h (by rw [step, ha]; rfl)
    rw [List.foldlM_cons, List.foldlM_cons, b.step_inside hopen]
    cases hb : b.step t with
    | error f => rfl
    | ok b' =>
      rw [hb] at h
      exact ih b' h

/-! ### The end of the pattern -/

theorem isRefused_finish_iff (b : Builder) : IsRefused b.finish ↔ b.around ≠ [] := by
  constructor
  · -- only the nesting is left to refuse where no group is open
    rintro ⟨f, hf, hb⟩ ha
    simp only [finish, ha, List.isEmpty_nil, if_true] at hb
    split at hb
    · cases hb
    · exact hf (Except.error.inj hb).symm
  · intro ha
    exact ⟨.unclosedGroup, nofun, by rw [finish, if_neg (by simpa using ha)]⟩

theorem node_of_finish {b : Builder} {r : Compiled} (h : b.finish = .ok r) :
    r.node = b.contents.node := by
  simp only [finish] at h
  split at h
  · split at h
    · cases h
      rfl
    · cases h
  · cases h

/-- The state after the end of the surrounding group and of the text. -/
def closed (b : Builder) : Except Fault Builder :=
  [.closeGroup, .anchor .lineEnd].foldlM step b.inside

/-- Everything that was read, as an item between the two ends of the text. -/
def betweenEnds (b : Builder) : Builder :=
  { b with
    flags := .initial
    items := [⟨.look .textEnd, 0, false⟩, ⟨b.contents.node, 1 + b.contents.height, false⟩,
      ⟨.look .textStart, 0, false⟩]
    branches := []
    around := [] }

theorem finish_closed_of_nil {b : Builder} (h : b.around = []) :
    b.closed >>= finish = b.betweenEnds.finish := by
  rw [closed, List.foldlM_cons, step, inside, h]
  rfl

/-- One group is closed, but not the surrounding one. -/
theorem closed_of_ne_nil {b : Builder} (h : b.around ≠ []) :
    ∃ b', b.closed = .ok b' ∧ b'.around ≠ [] := by
  obtain ⟨s, around, ha⟩ := List.exists_cons_of_ne_nil h
  rw [closed, List.foldlM_cons, step, inside, ha]
  exact ⟨_, rfl, List.append_ne_nil_of_right_ne_nil _ (List.cons_ne_nil _ _)⟩

theorem isRefused_finish_closed_iff (b : Builder) :
    IsRefused (b.closed >>= finish) ↔ b.around ≠ [] := by
  by_cases ha : b.around = []
  · rw [finish_closed_of_nil ha, isRefused_finish_iff, ha]
    exact Iff.rfl
  · obtain ⟨b', hb', ha'⟩ := closed_of_ne_nil ha
    rw [hb']
    exact iff_of_true ((isRefused_finish_iff b').mpr ha') ha

theorem node_of_finish_closed {b : Builder} {r r' : Compiled} (h : b.finish = .ok r)
    (h' : b.closed >>= finish = .ok r') :
    r'.node = .seqAll [.look .textStart, r.node, .look .textEnd] := by
  have ha : b.around = [] := by
    by_contra hne
    obtain ⟨f, _, hf⟩ := (isRefused_finish_iff b).mpr hne
    rw [hf] at h
    cases h
  rw [finish_closed_of_nil ha] at h'
  rw [node_of_finish h, node_of_finish h']
  rfl

end Builder

/-- What the tokens of a group between the ends of the text stand for. -/
theorem build_tokensInGroup {ts : List Token} (h : build ts ≠ .error .unopenedGroup) :
    (IsRefused (build (tokensInGroup ts)) ↔ IsRefused (build ts)) ∧
      ∀ r r', build ts = .ok r → build (tokensInGroup ts) = .ok r' →
        r'.node = .seqAll [.look .textStart, r.node, .look .textEnd] := by
  have hrun : ts.foldlM Builder.step Builder.start ≠ .error .unopenedGroup :=
    fun hr => h (by rw [build, hr]; rfl)
  -- the closing parenthesis and the end of the text come after the tokens of the pattern
  have hgroup : build (tokensInGroup ts) =
      ((ts.foldlM Builder.step Builder.start).map Builder.inside >>=
        [.closeGroup, .anchor .lineEnd].foldlM Builder.step) >>= Builder.finish := by
    rw [← Builder.start.foldlM_step_inside hrun, build, tokensInGroup, List.foldlM_append,
      List.foldlM_append]
    rfl
  rw [hgroup, build]
  cases ts.foldlM Builder.step Builder.start with
  | error f =>
    refine ⟨Iff.rfl, ?_⟩
    intro r r' hr
    cases hr
  | ok b =>
    change (IsRefused (b.closed >>= Builder.finish) ↔ IsRefused b.finish) ∧
      ∀ r r', b.finish = .ok r → b.closed >>= Builder.finish = .ok r' → _
    rw [b.isRefused_finish_closed_iff, b.isRefused_finish_iff]
    exact ⟨Iff.rfl, fun _ _ => Builder.node_of_finish_closed⟩

theorem toList_anchored (pattern : String) :
    (anchored pattern).toList = inGroup pattern.toList := by
  simp [anchored, inGroup]

/-- An anchored pattern is refused, or it is built from the tokens of the pattern in a group. -/
theorem compile_anchored_cases {pattern : String} (h : compile pattern ≠ .error .unopenedGroup) :
    (∃ ts, compile pattern = build ts ∧ endsInComment pattern.toList = false ∧
      compile (anchored pattern) = build (tokensInGroup ts)) ∨
    (IsRefused (compile pattern) ∨ endsInComment pattern.toList = true) ∧
      IsRefused (compile (anchored pattern)) := by
  have htokens : tokenize pattern.toList ≠ .error .unopenedGroup :=
    fun ht => h (by rw [compile, ht]; rfl)
  rw [compile, compile, toList_anchored]
  rcases tokenize_inGroup htokens with ⟨ts, hts, hcomment, hgroup⟩ | ⟨hrefused, hgroup⟩
  · rw [hts, hgroup]
    exact .inl ⟨ts, rfl, hcomment, rfl⟩
  · exact .inr ⟨hrefused.imp_left (·.bind build), hgroup.bind build⟩

/-- Unless a pattern is refused for a closing parenthesis without an opening one, it is refused when
it is anchored just if it is refused itself or ends in a comment; what is refused for its nesting
does not count as refused. If a pattern and the anchored one are both accepted, the anchored one
matches the texts that the pattern matches from one end to the other. -/
theorem compile_anchored (pattern : String) :
    (compile pattern ≠ .error .unopenedGroup →
      (IsRefused (compile (anchored pattern)) ↔
        IsRefused (compile pattern) ∨ endsInComment pattern.toList = true)) ∧
    ∀ r r', compile pattern = .ok r → compile (anchored pattern) = .ok r' → ∀ text : String,
      (r'.matchesIn text = true ↔ r.node.Spans text.toList 0 text.toList.length) := by
  constructor
  · intro h
    rcases compile_anchored_cases h with ⟨ts, hp, hcomment, hgroup⟩ | ⟨hrefused, hgroup⟩
    · -- the parenthesis of the group is read as such, so the group decides
      rw [hp] at h
      have hbuild := (build_tokensInGroup h).1
      rw [hp, hcomment, hgroup, hbuild]
      exact (or_iff_left Bool.false_ne_true).symm
    · exact iff_of_true hgroup hrefused
  · intro r r' hr hr' text
    have h : compile pattern ≠ .error .unopenedGroup := by
      rw [hr]
      nofun
    rcases compile_anchored_cases h with ⟨ts, hp, _, hgroup⟩ | ⟨_, f, _, hgroup⟩
    · have hnode : r'.node = .seqAll [.look .textStart, r.node, .look .textEnd] := by
        rw [hp] at h hr
        exact (build_tokensInGroup h).2 r r' hr (hgroup.symm.trans hr')
      rw [Compiled.matchesIn, hnode, Node.isMatch_betweenEnds_iff]
    · -- it was said to be accepted
      rw [hgroup] at hr'
      cases hr'

/-- Both branches of a choice are anchored. -/
theorem compile_anchored_choice :
    compile "a|bc" ≠ .error .unopenedGroup ∧ ¬IsRefused (compile (anchored "a|bc")) ∧
      ∃ r r', compile "a|bc" = .ok r ∧ compile (anchored "a|bc") = .ok r' ∧
        (r'.matchesIn "abc" = true ↔ r.node.Spans ['a', 'b', 'c'] 0 3) := by
  obtain ⟨r, hr⟩ : ∃ r, compile "a|bc" = .ok r := ⟨_, rfl⟩
  obtain ⟨r', hr'⟩ : ∃ r', compile (anchored "a|bc") = .ok r' := ⟨_, rfl⟩
  have h : compile "a|bc" ≠ .error .unopenedGroup := by
    rw [hr]
    nofun
  refine ⟨h, ?_, r, r', hr, hr', (compile_anchored "a|bc").2 r r' hr hr' "abc"⟩
  rw [(compile_anchored "a|bc").1 h, hr]
  rintro (⟨_, _, ⟨⟩⟩ | hcomment)
  exact absurd hcomment (by decide)

/-- A pattern that is refused becomes one that is accepted and matches more than whole texts, and
one that ends in a comment becomes one that is refused. -/
theorem anchored_differs_in_acceptance :
    (IsRefused (compile "a)|(?:b") ∧
      ∃ r, compile (anchored "a)|(?:b") = .ok r ∧ r.matchesIn "axxx" = true) ∧
    (∃ r, compile "(?x)a #b" = .ok r) ∧ IsRefused (compile (anchored "(?x)a #b")) :=
  ⟨⟨⟨.unopenedGroup, nofun, rfl⟩, _, rfl, rfl⟩, ⟨_, rfl⟩, .unclosedGroup, nofun, rfl⟩

end RecordExpr.Regex
