import Mathlib.Logic.Basic
import Mathlib.Tactic.ByContra
import RecordExpr.Regex.Lexer

/-!
# Reading a pattern inside a group

To anchor a pattern, it is put into a group. The reader then goes through the same states as without
the group, save that more tokens have been read before them and one more group is open
(`Lexer.inside`). This holds for every character but one: a closing parenthesis that has no opening
one closes the surrounding group (`step_inside`, from one lemma for each mode). A pattern that ends
in a comment does not leave it when the group should be closed, so the group stays open.

The main result is `tokenize_inGroup`.
-/

namespace RecordExpr.Regex

/-- Whether a pattern may end in a mode. -/
def Mode.mayEnd : Mode → Bool
  | .item | .quantified _ | .boundary => true
  | _ => false

/-- Whether something is refused, for something else than its nesting. -/
def IsRefused {α : Type} (x : Except Fault α) : Prop := ∃ f, f ≠ .nestedTooDeep ∧ x = .error f

/-- What comes after a refusal does not matter. -/
theorem IsRefused.bind {α β : Type} {x : Except Fault α} (h : IsRefused x)
    (f : α → Except Fault β) : IsRefused (x >>= f) := by
  obtain ⟨fault, hfault, rfl⟩ := h
  exact ⟨fault, hfault, rfl⟩

/-- A pattern in a group between the beginning and the end of a line. -/
def inGroup (cs : List Char) : List Char := ['^', '(', '?', ':'] ++ cs ++ [')', '$']

/-- The tokens of a pattern in a group. -/
def tokensInGroup (ts : List Token) : List Token :=
  [.anchor .lineStart, .openGroup (.plain [])] ++ ts ++ [.closeGroup, .anchor .lineEnd]

/-- Whether a pattern is read to its end and the end belongs to a comment. -/
def endsInComment (cs : List Char) : Bool :=
  match cs.foldlM Lexer.step Lexer.start with
  | .ok s => s.inComment
  | .error _ => false

namespace Lexer

/-- The state inside a group that starts at the beginning of a line. -/
def inside (s : Lexer) : Lexer :=
  { s with
    tokens := s.tokens ++ [.openGroup (.plain []), .anchor .lineStart]
    outer := s.outer ++ [false] }

/-- Two outcomes of reading, the second one inside the group. No fault of reading is about nesting.
-/
inductive SameInside : Except Fault Lexer → Except Fault Lexer → Prop
  | ok (s : Lexer) : SameInside (.ok s) (.ok s.inside)
  | error {f : Fault} (h : f ≠ .nestedTooDeep) : SameInside (.error f) (.error f)

namespace SameInside

variable {x y x' y' : Except Fault Lexer}

/-- Both lexers make the same choice where it does not depend on the groups around. -/
theorem ite {p : Prop} [Decidable p] (hx : SameInside x x') (hy : SameInside y y') :
    SameInside (if p then x else y) (if p then x' else y') := by
  split
  · exact hx
  · exact hy

/-- Steps that agree inside of a group agree one after another, as long as the first one is
taken. -/
theorem bind {k k' : Lexer → Except Fault Lexer} (hx : SameInside x x')
    (hk : ∀ s, x = .ok s → SameInside (k s) (k' s.inside)) : SameInside (x >>= k) (x' >>= k') := by
  cases hx with
  | ok s => exact hk s rfl
  | error h => exact .error h

end SameInside

variable (s : Lexer) (c : Char)

/-- Only the groups around are other ones. -/
theorem bracket_inside : s.inside.bracket = s.bracket := rfl

/-! ### Finishing constructs -/

theorem finishRange_inside (first last : Literal) :
    SameInside (s.finishRange first last) (s.inside.finishRange first last) :=
  .ite (.ok _) (.error nofun)

/-- A literal is added to the class that is open, or else to what has been read. -/
theorem finishLiteral_inside (l : Literal) :
    SameInside (s.finishLiteral l) (s.inside.finishLiteral l) := by
  refine .ite ?_ (.ok _)
  rw [bracket_inside]
  split
  · exact s.finishRange_inside _ _
  · exact .ok _

theorem finishNamed_inside (k : NamedClass) :
    SameInside (s.finishNamed k) (s.inside.finishNamed k) := by
  refine .ite ?_ (.ok _)
  rw [bracket_inside]
  split
  · exact .error nofun
  · exact .ok _

theorem finishAnchor_inside (a : Anchor) :
    SameInside (s.finishAnchor a) (s.inside.finishAnchor a) :=
  .ite (.error nofun) (.ok _)

/-- A class is closed into the one around it or becomes an item; groups are not touched. -/
theorem closeBracket_inside : SameInside s.closeBracket s.inside.closeBracket := by
  simp only [closeBracket, bracket_inside]
  split
  · exact .ok _
  · exact .ok _
  · exact .error nofun

/-- What was read last is outside of the reach of the groups around. -/
theorem makeLazy_inside : s.inside.makeLazy = s.makeLazy.inside := by
  obtain ⟨_ | ⟨t, ts⟩, _⟩ := s
  · rfl
  · cases t <;> rfl

theorem foldl_addItem_inside (cs : List Char) :
    cs.foldl (fun s d => s.addItem (.literal (.plain d))) s.inside =
      (cs.foldl (fun s d => s.addItem (.literal (.plain d))) s).inside := by
  induction cs generalizing s with
  | nil => rfl
  | cons d cs ih => exact ih (s.addItem (.literal (.plain d)))

/-! ### What a character does in each mode -/

/-- Blanks and comments are skipped in the same way. -/
theorem spaced_inside {k : Lexer → Char → Except Fault Lexer}
    (h : SameInside (k s c) (k s.inside c)) :
    SameInside (spaced k s c) (spaced k s.inside c) :=
  .ite (.ok _) (.ite (.ok _) h)

/-- A closing parenthesis is the one character that leaves a group, so there has to be one
around. -/
theorem itemStep_inside (h : c = ')' → s.outer ≠ []) :
    SameInside (s.itemStep c) (s.inside.itemStep c) := by
  unfold itemStep
  split
  case h_2 =>
    -- a group is closed that was opened inside
    split
    · next hs => exact absurd hs (h rfl)
    · next v vs hs =>
      simp only [inside, hs, List.cons_append]
      exact .ok _
  all_goals exact .ok _

theorem newItem_inside (h : c = ')' → s.outer ≠ []) :
    SameInside (s.newItem c) (s.inside.newItem c) :=
  spaced_inside _ c (itemStep_inside { s with mode := .item } c h)

/-- After an item comes a sign for its number or another item. -/
theorem quantifiedStep_inside (h : c = ')' → s.outer ≠ []) :
    SameInside (s.quantifiedStep c) (s.inside.quantifiedStep c) := by
  unfold quantifiedStep
  split
  · rw [makeLazy_inside]
    exact .ok _
  · exact s.newItem_inside c h

/-- Flags hold for the rest of a group or for a group of their own, which is opened inside. -/
theorem groupFlagsStep_inside (settings : Settings) (off dangling : Bool) :
    SameInside (groupFlagsStep settings off dangling s c)
      (groupFlagsStep settings off dangling s.inside c) := by
  unfold groupFlagsStep
  split
  · repeat' split
    all_goals first | exact .ok _ | exact .error nofun
  · repeat' split
    all_goals first | exact .ok _ | exact .error nofun

theorem groupOpenedStep_inside : SameInside (s.groupOpenedStep c) (s.inside.groupOpenedStep c) := by
  unfold groupOpenedStep
  split
  · exact .ok _
  · exact itemStep_inside (s.openGroup (.capture none) s.verbose) c nofun

theorem groupKindStep_inside : SameInside (s.groupKindStep c) (s.inside.groupKindStep c) := by
  unfold groupKindStep
  split
  · exact .ok _
  · exact .ok _
  · exact .error nofun
  · exact .error nofun
  · exact s.groupFlagsStep_inside c _ _ _

theorem groupNameStep_inside (name : List Char) :
    SameInside (groupNameStep name s c) (groupNameStep name s.inside c) := by
  unfold groupNameStep
  repeat' split
  all_goals first | exact .ok _ | exact .error nofun

/-- After a backslash. -/
theorem escapeStep_inside : SameInside (s.escapeStep c) (s.inside.escapeStep c) := by
  unfold escapeStep
  split
  case h_6 => exact .ite (.error nofun) (.ok _)
  case h_7 =>
    split
    · exact s.finishNamed_inside _
    · exact s.finishAnchor_inside _
    · exact s.finishLiteral_inside _
    · split
      · exact s.finishLiteral_inside _
      · exact .error nofun
  all_goals exact .ok _

theorem hexDigitsStep_inside (left value : Nat) (isByte : Bool) :
    SameInside (hexDigitsStep left value isByte s c)
      (hexDigitsStep left value isByte s.inside c) := by
  unfold hexDigitsStep
  split
  · exact .error nofun
  · dsimp only
    split
    · exact .ok _
    · split
      · exact s.finishLiteral_inside _
      · exact .error nofun

theorem hexStartStep_inside (digits : Nat) :
    SameInside (hexStartStep digits s c) (hexStartStep digits s.inside c) := by
  unfold hexStartStep
  split
  · exact .ok _
  · exact s.hexDigitsStep_inside c _ _ _

theorem hexBracesStep_inside (value : Option Nat) :
    SameInside (hexBracesStep value s c) (hexBracesStep value s.inside c) := by
  unfold hexBracesStep
  split
  · split
    · exact s.finishLiteral_inside _
    · exact .error nofun
  · split
    · exact .error nofun
    · exact .ok _

theorem propertyStartStep_inside (negated : Bool) :
    SameInside (propertyStartStep negated s c) (propertyStartStep negated s.inside c) := by
  unfold propertyStartStep
  split
  · exact .ok _
  · split
    · exact .error nofun
    · exact s.finishNamed_inside _

theorem propertyNameStep_inside (negated : Bool) (name : List Char) :
    SameInside (propertyNameStep negated name s c) (propertyNameStep negated name s.inside c) := by
  unfold propertyNameStep
  split
  · exact s.finishNamed_inside _
  · exact .ok _

theorem finishCount_inside (min : Nat) (max : Option Nat) :
    SameInside (s.finishCount min max) (s.inside.finishCount min max) :=
  .ite (.ok _) (.error nofun)

/-- One more digit of a number in braces. -/
theorem addDigit_inside (value : Option Nat) (k : Nat → Mode) :
    SameInside (do s.goto (k (← addDigit value c)))
      (do s.inside.goto (k (← addDigit value c))) := by
  unfold addDigit
  dsimp only
  split
  · exact .ok _
  · exact .error nofun

theorem countMinStep_inside (value : Option Nat) (ended : Bool) :
    SameInside (countMinStep value ended s c) (countMinStep value ended s.inside c) := by
  unfold countMinStep
  split
  · exact .ok _
  · split
    · split
      · exact .error nofun
      · exact s.addDigit_inside c value (fun n => .countMin (some n) false)
    · split
      · exact .ok _
      · split
        · exact s.finishCount_inside _ _
        · exact .error nofun

theorem countMaxStep_inside (min : Nat) (value : Option Nat) (ended : Bool) :
    SameInside (countMaxStep min value ended s c) (countMaxStep min value ended s.inside c) := by
  unfold countMaxStep
  split
  · exact .ok _
  · split
    · split
      · exact .error nofun
      · exact s.addDigit_inside c value (fun n => .countMax min (some n) false)
    · split
      · exact s.finishCount_inside _ _
      · exact .error nofun

theorem countCommaStep_inside (min : Option Nat) :
    SameInside (countCommaStep min s c) (countCommaStep min s.inside c) := by
  unfold countCommaStep
  split
  · exact .error nofun
  · split
    · exact s.finishCount_inside _ _
    · exact s.countMaxStep_inside c _ _ _

/-- After `\b`, where a brace may follow or the next item. -/
theorem boundaryStep_inside (h : c = ')' → s.outer ≠ []) :
    SameInside (s.boundaryStep c) (s.inside.boundaryStep c) := by
  unfold boundaryStep
  split
  · exact .ok _
  · exact newItem_inside (s.emit _) c h

theorem boundaryBraceStep_inside :
    SameInside (s.boundaryBraceStep c) (s.inside.boundaryBraceStep c) := by
  unfold boundaryBraceStep
  split
  · exact .ok _
  · exact countMinStep_inside (s.emit _) c _ _

theorem boundaryNameStep_inside (name : List Char) :
    SameInside (boundaryNameStep name s c) (boundaryNameStep name s.inside c) := by
  unfold boundaryNameStep
  repeat' split
  all_goals first | exact .ok _ | exact .error nofun

/-- Within a class in brackets, where parentheses are characters like others. -/
theorem bracketItemStep_inside : SameInside (s.bracketItemStep c) (s.inside.bracketItemStep c) := by
  unfold bracketItemStep
  split
  case h_2 => exact s.closeBracket_inside
  all_goals exact .ok _

theorem bracketLeadStep_inside : SameInside (s.bracketLeadStep c) (s.inside.bracketLeadStep c) := by
  refine .ite (.ok _) (.ite (.ok _) ?_)
  exact s.bracketItemStep_inside c

theorem bracketOpenedStep_inside :
    SameInside (s.bracketOpenedStep c) (s.inside.bracketOpenedStep c) := by
  unfold bracketOpenedStep
  split
  · exact .ok _
  · exact s.bracketLeadStep_inside c

theorem bracketAfterStep_inside (p : Primary) :
    SameInside (bracketAfterStep p s c) (bracketAfterStep p s.inside c) := by
  unfold bracketAfterStep
  split
  · exact .ok _
  · exact bracketItemStep_inside (s.addItem _) c

theorem bracketTwinStep_inside (first : Char) :
    SameInside (bracketTwinStep first s c) (bracketTwinStep first s.inside c) := by
  unfold bracketTwinStep
  split
  · exact .ok _
  · exact spaced_inside _ c (bracketAfterStep_inside { s with mode := .bracketAfter _ } c _)

theorem bracketRangeEndStep_inside (p : Primary) :
    SameInside (bracketRangeEndStep p s c) (bracketRangeEndStep p s.inside c) := by
  unfold bracketRangeEndStep
  split
  · exact .error nofun
  · exact .ite (.ok _) (s.finishRange_inside _ _)

/-- After a hyphen in a class, which may be a range, a difference or a literal. -/
theorem bracketHyphenStep_inside (p : Primary) (atOnce : Bool) :
    SameInside (bracketHyphenStep p atOnce s c) (bracketHyphenStep p atOnce s.inside c) := by
  unfold bracketHyphenStep
  dsimp only
  split
  · exact closeBracket_inside ((s.addItem _).addItem _)
  · exact .ite (.ite (.ok _) (.ok _)) (s.bracketRangeEndStep_inside c p)

/-- After a comment that follows the hyphen. -/
theorem bracketRemarkStep_inside (p : Primary) (goesOn : Bool) :
    SameInside (bracketRemarkStep p goesOn s c) (bracketRemarkStep p goesOn s.inside c) := by
  let hyphen := Primary.literal (.plain '-')
  let after : Lexer := { s.addItem p.toBracket with mode := .bracketAfter hyphen }
  let range : Lexer := { s with mode := .bracketRangeEnd p }
  refine .ite (.ok _) (.ite (.ite (.ok _) ?_) (.ite (.ok _) ?_))
  · exact after.bracketAfterStep_inside c hyphen
  · exact range.spaced_inside c (range.bracketRangeEndStep_inside c p)

theorem bracketProbeStep_inside (text : List Char) :
    SameInside (bracketProbeStep text s c) (bracketProbeStep text s.inside c) := by
  unfold bracketProbeStep
  dsimp only
  split
  · exact .ok _
  · split
    · exact .ok _
    · split
      · exact spaced_inside _ c (bracketOpenedStep_inside s.openBracket c)
      · next last before _ =>
        rw [show s.inside.openBracket = s.openBracket.inside from rfl, foldl_addItem_inside]
        generalize List.foldl _ s.openBracket before.reverse = filled
        let after : Lexer := { filled with mode := .bracketAfter (.literal (.plain last)) }
        exact after.spaced_inside c (after.bracketAfterStep_inside c _)

/-! ### One character -/

/-- What can be read inside a group as it is without the group: everything except a closing
parenthesis where no group is open. -/
def StaysInside (s : Lexer) (c : Char) : Prop :=
  c = ')' → s.inComment = false → s.mode.mayEnd = true → s.outer ≠ []

/-- The one step that does not agree takes a closing parenthesis where no group is open. -/
theorem not_staysInside_iff :
    ¬s.StaysInside c ↔
      c = ')' ∧ s.inComment = false ∧ s.mode.mayEnd = true ∧ s.outer = [] := by
  simp only [StaysInside, not_forall, not_not, exists_prop]

/-- A step inside of a group is the same step with no group around, if it does not close one. -/
theorem step_inside (h : s.StaysInside c) : SameInside (s.step c) (s.inside.step c) := by
  by_cases hcomment : s.inComment = true
  · have hcomment' : s.inside.inComment = true := hcomment
    rw [step, step, if_pos hcomment, if_pos hcomment']
    exact .ok _
  have hcomment' : ¬s.inside.inComment = true := hcomment
  rw [step, step, if_neg hcomment, if_neg hcomment', show s.inside.mode = s.mode from rfl]
  have hend : s.mode.mayEnd = true → c = ')' → s.outer ≠ [] :=
    fun hm hc => h hc (by simpa using hcomment) hm
  -- one case for each mode; in the three where a pattern may end, a parenthesis may close a group
  cases hm : s.mode with
  | item => exact s.newItem_inside c (hend (by rw [hm]; rfl))
  | quantified afterBlanks =>
    have hq := s.quantifiedStep_inside c (hend (by rw [hm]; rfl))
    cases afterBlanks with
    | true => exact s.spaced_inside c hq
    | false => exact hq
  | groupOpened => exact s.spaced_inside c (s.groupOpenedStep_inside c)
  | groupKind => exact s.groupKindStep_inside c
  | groupNameOpen => exact .ite (.ok _) (.error nofun)
  | groupName name => exact s.groupNameStep_inside c name
  | groupFlags settings off dangling => exact s.groupFlagsStep_inside c settings off dangling
  | escape => exact s.escapeStep_inside c
  | hexStart digits => exact s.spaced_inside c (s.hexStartStep_inside c digits)
  | hexDigits left value isByte =>
    exact s.spaced_inside c (s.hexDigitsStep_inside c left value isByte)
  | hexBraces value => exact s.spaced_inside c (s.hexBracesStep_inside c value)
  | propertyStart negated => exact s.spaced_inside c (s.propertyStartStep_inside c negated)
  | propertyName negated name =>
    exact s.spaced_inside c (s.propertyNameStep_inside c negated name)
  | boundary => exact s.boundaryStep_inside c (hend (by rw [hm]; rfl))
  | boundaryBrace => exact s.spaced_inside c (s.boundaryBraceStep_inside c)
  | boundaryName name => exact s.spaced_inside c (s.boundaryNameStep_inside c name)
  | countMin value ended => exact s.spaced_inside c (s.countMinStep_inside c value ended)
  | countComma min => exact s.spaced_inside c (s.countCommaStep_inside c min)
  | countMax min value ended => exact s.spaced_inside c (s.countMaxStep_inside c min value ended)
  | bracketOpened => exact s.spaced_inside c (s.bracketOpenedStep_inside c)
  | bracketLead => exact s.spaced_inside c (s.bracketLeadStep_inside c)
  | bracketItem => exact s.spaced_inside c (s.bracketItemStep_inside c)
  | bracketTwin first => exact s.bracketTwinStep_inside c first
  | bracketAfter p => exact s.spaced_inside c (s.bracketAfterStep_inside c p)
  | bracketHyphen p atOnce =>
    exact .ite (.ok _) (.ite (.ok _) (s.bracketHyphenStep_inside c p atOnce))
  | bracketRemark p goesOn => exact s.bracketRemarkStep_inside c p goesOn
  | bracketRangeEnd p => exact s.spaced_inside c (s.bracketRangeEndStep_inside c p)
  | bracketProbe text => exact s.bracketProbeStep_inside c text

/-! ### The end of the pattern -/

/-- The tokens so far, with the one that is only complete when nothing follows it. -/
def read (s : Lexer) : List Token :=
  match s.mode with
  | .boundary => .anchor .wordBoundary :: s.tokens
  | _ => s.tokens

/-- The end of a pattern is refused in a group, and where a token is not complete. -/
theorem finish_eq :
    s.finish = if s.mode.mayEnd then
      if s.outer.isEmpty then .ok s.read.reverse else .error .unclosedGroup
    else .error .unexpectedEnd := by
  obtain ⟨_, mode, _⟩ := s
  cases mode <;> rfl

/-- The group is still open. -/
theorem finish_inside : IsRefused s.inside.finish := by
  rw [finish_eq]
  split
  · exact ⟨.unclosedGroup, nofun, by simp [inside]⟩
  · exact ⟨.unexpectedEnd, nofun, rfl⟩

/-- What a closing parenthesis does that has no opening one: it is refused, unless it closes the
surrounding group. -/
theorem step_closing (hcomment : s.inComment = false) (hm : s.mode.mayEnd = true)
    (houter : s.outer = []) :
    s.step ')' = .error .unopenedGroup ∧
      s.inside.step ')' =
        .ok ⟨.closeGroup :: (s.read ++ [.openGroup (.plain []), .anchor .lineStart]), .item, false,
          false, [], s.bracket⟩ := by
  obtain ⟨tokens, mode, inComment, verbose, outer, bracket⟩ := s
  subst hcomment houter
  cases mode with
  | item => cases verbose <;> exact ⟨rfl, rfl⟩
  | quantified afterBlanks => cases verbose <;> cases afterBlanks <;> exact ⟨rfl, rfl⟩
  | boundary => cases verbose <;> exact ⟨rfl, rfl⟩
  | _ => cases hm

/-- If the closing parenthesis at the end does not close the group, it stays open. -/
theorem isRefused_of_staysInside (h : s.StaysInside ')') :
    IsRefused ([')', '$'].foldlM step s.inside >>= finish) := by
  have hrun : SameInside ([')', '$'].foldlM step s) ([')', '$'].foldlM step s.inside) := by
    rw [List.foldlM_cons, List.foldlM_cons]
    refine (s.step_inside ')' h).bind fun t _ => ?_
    rw [List.foldlM_cons, List.foldlM_cons]
    exact (t.step_inside '$' nofun).bind fun u _ => .ok u
  generalize [')', '$'].foldlM step s = x at hrun
  generalize [')', '$'].foldlM step s.inside = y at hrun ⊢
  cases hrun with
  | ok t => exact t.finish_inside
  | @error f hf => exact ⟨f, hf, rfl⟩

/-- What the end of a pattern and the end of the group say to each other: either both are in place,
or the group stays open, since the pattern may not end here or ends in a comment. -/
theorem finish_cases :
    (s.inComment = false ∧ ∃ ts, s.finish = .ok ts ∧
      [')', '$'].foldlM step s.inside >>= finish = .ok (tokensInGroup ts)) ∨
    (IsRefused s.finish ∨ s.inComment = true) ∧
      IsRefused ([')', '$'].foldlM step s.inside >>= finish) := by
  by_cases hstays : s.StaysInside ')'
  · refine .inr ⟨?_, s.isRefused_of_staysInside hstays⟩
    cases hcomment : s.inComment with
    | true => exact .inr rfl
    | false =>
      left
      rw [finish_eq]
      split
      · next hm =>
        -- a group of the pattern is still open
        have houter : s.outer.isEmpty = false := by simpa using hstays rfl hcomment hm
        rw [houter]
        exact ⟨.unclosedGroup, nofun, rfl⟩
      · exact ⟨.unexpectedEnd, nofun, rfl⟩
  · -- only the group around is open, and the parenthesis closes it
    obtain ⟨_, hcomment, hm, houter⟩ := (s.not_staysInside_iff ')').mp hstays
    refine .inl ⟨hcomment, s.read.reverse, ?_, ?_⟩
    · rw [finish_eq, hm, houter]
      rfl
    · rw [List.foldlM_cons, (s.step_closing hcomment hm houter).2]
      change Except.ok (.anchor .lineEnd :: .closeGroup ::
        (s.read ++ [.openGroup (.plain []), .anchor .lineStart])).reverse = _
      simp [tokensInGroup]

/-! ### A whole pattern -/

/-- All characters of a pattern are read inside of a group as they are outside, unless one of them
closes a group that was not opened. -/
theorem foldlM_step_inside {cs : List Char} (h : cs.foldlM step s ≠ .error .unopenedGroup) :
    SameInside (cs.foldlM step s) (cs.foldlM step s.inside) := by
  induction cs generalizing s with
  | nil => exact .ok s
  | cons c cs ih =>
    rw [List.foldlM_cons] at h
    -- the one step that does not agree would have been refused
    have hstays : s.StaysInside c := by
      by_contra hc
      obtain ⟨rfl, hcomment, hm, houter⟩ := (s.not_staysInside_iff c).mp hc
      exact h (by rw [(s.step_closing hcomment hm houter).1]; rfl)
    rw [List.foldlM_cons, List.foldlM_cons]
    refine (s.step_inside c hstays).bind fun t ht => ih t ?_
    rwa [ht] at h

end Lexer

/-- What a pattern is read as inside a group, unless it closes the group itself. -/
theorem tokenize_inGroup {cs : List Char} (h : tokenize cs ≠ .error .unopenedGroup) :
    (∃ ts, tokenize cs = .ok ts ∧ endsInComment cs = false ∧
      tokenize (inGroup cs) = .ok (tokensInGroup ts)) ∨
    (IsRefused (tokenize cs) ∨ endsInComment cs = true) ∧ IsRefused (tokenize (inGroup cs)) := by
  have hrun : cs.foldlM Lexer.step Lexer.start ≠ .error .unopenedGroup :=
    fun hr => h (by rw [tokenize, hr]; rfl)
  have hinside := Lexer.foldlM_step_inside Lexer.start hrun
  -- the lexer reads what opens the group, the pattern, and what closes the group
  have hgroup : tokenize (inGroup cs) =
      (cs.foldlM Lexer.step Lexer.start.inside >>= [')', '$'].foldlM Lexer.step) >>=
        Lexer.finish := by
    rw [tokenize, inGroup, List.foldlM_append, List.foldlM_append]
    rfl
  rw [hgroup, tokenize, endsInComment]
  generalize cs.foldlM Lexer.step Lexer.start = x at hinside ⊢
  generalize cs.foldlM Lexer.step Lexer.start.inside = y at hinside ⊢
  cases hinside with
  | @error f hf => exact .inr ⟨.inl ⟨f, hf, rfl⟩, f, hf, rfl⟩
  | ok s =>
    rcases s.finish_cases with ⟨hcomment, ts, hts, hclosed⟩ | hrefused
    · exact .inl ⟨ts, hts, hcomment, hclosed⟩
    · exact .inr hrefused

end RecordExpr.Regex
