import Mathlib.Logic.Function.Iterate
import RecordExpr.Regex.Overlay

/-!
# What a regular expression matches

`Node.Spans` says which stretches of a text a regular expression matches, by what its parts match.
The matcher goes another way: from a set of places where a match may end it computes the places
where one may start (`Overlay.before`). That this is right is one lemma for each way of putting
expressions together (`StepsBack`). Only the unlimited repetition needs an argument: the matcher
stops after as many passes as the text has places, and they are enough, since passes that match
nothing can be left out (`Times.shorten`).

The main results are `isMatch_iff`, and `isMatch_betweenEnds_iff` for an expression that stands
between the two ends of the text.
-/

namespace RecordExpr.Regex

/-- Several steps of a relation between places. -/
def Times (step : Nat → Nat → Prop) : Nat → Nat → Nat → Prop
  | 0, i, j => i = j
  | n + 1, i, j => ∃ k, step i k ∧ Times step n k j

/-- The character in front of a place. -/
def charBefore? (text : List Char) : Nat → Option Char
  | 0 => none
  | i + 1 => text[i]?

/-- Whether an expression matches the stretch of a text from one place to another. A repetition
whose greatest count is below the least one, which no pattern stands for, has the least one for
both. -/
def Node.Spans (text : List Char) : Node → Nat → Nat → Prop
  | .empty, i, j => i = j
  | .set s, i, j => (∃ c, text[i]? = some c ∧ s.contains c = true) ∧ i + 1 = j
  | .look l, i, j => l.holds (charBefore? text i) text[i]? = true ∧ i = j
  | .seq a b, i, j => ∃ k, a.Spans text i k ∧ b.Spans text k j
  | .alt a b, i, j => a.Spans text i j ∨ b.Spans text i j
  | .rep least most _ r, i, j =>
    ∃ n, least ≤ n ∧ (∀ m, most = some m → n ≤ max least m) ∧ Times (r.Spans text) n i j
  | .group _ r, i, j => r.Spans text i j

/-! ### Several steps -/

namespace Times

variable {step : Nat → Nat → Prop} {i j : Nat}

/-- Steps are counted on from where others ended. -/
theorem add_iff {m n : Nat} :
    Times step (m + n) i j ↔ ∃ k, Times step m i k ∧ Times step n k j := by
  induction m generalizing i with
  | zero => simp [Times]
  | succ m ih =>
    rw [Nat.succ_add]
    simp only [Times, ih]
    constructor
    · rintro ⟨k, hk, l, hl, hj⟩
      exact ⟨l, ⟨k, hk, hl⟩, hj⟩
    · rintro ⟨l, ⟨k, hk, hl⟩, hj⟩
      exact ⟨k, hk, l, hl, hj⟩

/-- Steps that stay where they are can be left out, and the others go forward. -/
theorem shorten (hstep : ∀ {i j}, step i j → i ≤ j) {n : Nat} (h : Times step n i j) :
    ∃ m, i + m ≤ j ∧ Times step m i j := by
  induction n generalizing i with
  | zero => exact ⟨0, Nat.le_of_eq h, h⟩
  | succ n ih =>
    obtain ⟨k, hk, hj⟩ := h
    obtain ⟨m, hm, hj⟩ := ih hj
    rcases Nat.eq_or_lt_of_le (hstep hk) with rfl | hlt
    · exact ⟨m, hm, hj⟩
    · exact ⟨m + 1, by omega, k, hk, hj⟩

end Times

/-! ### Going back from a set of places -/

namespace Places

/-- No place of the set lies behind `bound`. -/
def Within (s : Places) (bound : Nat) : Prop := ∀ {i}, s.contains i = true → i ≤ bound

theorem ne_empty_iff (s : Places) : s ≠ empty ↔ ∃ i, s.contains i = true := by
  constructor
  · intro h
    have hbits : s.bits ≠ 0 := fun h0 => h (congrArg mk h0)
    exact Nat.exists_testBit_of_ne_zero hbits
  · rintro ⟨i, hi⟩ rfl
    simp at hi

end Places

/-- The function goes one step of the relation back, from any set of places up to `bound`. -/
structure StepsBack (bound : Nat) (f : Places → Places) (step : Nat → Nat → Prop) : Prop where
  forward : ∀ {i j}, step i j → i ≤ j
  contains_iff : ∀ {s : Places}, s.Within bound → ∀ i,
    (f s).contains i = true ↔ ∃ j, step i j ∧ s.contains j = true

namespace StepsBack

variable {bound : Nat} {f g : Places → Places} {step step' : Nat → Nat → Prop}

/-- A function that steps back stays within the text. -/
theorem within (hf : StepsBack bound f step) {s : Places} (hs : s.Within bound) :
    (f s).Within bound := by
  intro i hi
  obtain ⟨j, hij, hj⟩ := (hf.contains_iff hs i).mp hi
  exact Nat.le_trans (hf.forward hij) (hs hj)

/-- What the relation says behind `bound` does not count. -/
theorem congr (hf : StepsBack bound f step) (h : ∀ i j, j ≤ bound → (step' i j ↔ step i j))
    (hforward : ∀ {i j}, step' i j → i ≤ j) : StepsBack bound f step' where
  forward := hforward
  contains_iff := by
    intro s hs i
    rw [hf.contains_iff hs]
    refine exists_congr fun j => and_congr_left fun hj => ?_
    exact (h i j (hs hj)).symm

/-- To stay where a test is passed. -/
theorem stay {places : Places} {test : Nat → Prop}
    (h : ∀ i, i ≤ bound → (places.contains i = true ↔ test i)) :
    StepsBack bound places.inter (fun i j => test i ∧ i = j) where
  forward := fun hij => Nat.le_of_eq hij.2
  contains_iff := by
    intro s hs i
    rw [Places.contains_inter, Bool.and_eq_true]
    constructor
    · rintro ⟨hp, hi⟩
      exact ⟨i, ⟨(h i (hs hi)).mp hp, rfl⟩, hi⟩
    · rintro ⟨_, ⟨hp, rfl⟩, hi⟩
      exact ⟨(h i (hs hi)).mpr hp, hi⟩

/-- To pass one character where a test is passed. -/
theorem pass {places : Places} {test : Nat → Prop}
    (h : ∀ i, places.contains i = true ↔ test i) :
    StepsBack bound (fun s => places.inter s.pred) (fun i j => test i ∧ i + 1 = j) where
  forward := fun hij => hij.2 ▸ Nat.le_succ _
  contains_iff := by
    intro s _ i
    rw [Places.contains_inter, Bool.and_eq_true, Places.contains_pred, h]
    constructor
    · rintro ⟨hp, hi⟩
      exact ⟨i + 1, ⟨hp, rfl⟩, hi⟩
    · rintro ⟨_, ⟨hp, rfl⟩, hi⟩
      exact ⟨hp, hi⟩

/-- Steps one after another. -/
theorem comp (hf : StepsBack bound f step) (hg : StepsBack bound g step') :
    StepsBack bound (f ∘ g) (fun i j => ∃ k, step i k ∧ step' k j) where
  forward := by
    rintro i j ⟨k, hik, hkj⟩
    exact Nat.le_trans (hf.forward hik) (hg.forward hkj)
  contains_iff := by
    intro s hs i
    rw [Function.comp_apply, hf.contains_iff (hg.within hs)]
    simp only [hg.contains_iff hs]
    constructor
    · rintro ⟨k, hik, j, hkj, hj⟩
      exact ⟨j, ⟨k, hik, hkj⟩, hj⟩
    · rintro ⟨j, ⟨k, hik, hkj⟩, hj⟩
      exact ⟨k, hik, j, hkj, hj⟩

/-- One of two steps. -/
theorem union (hf : StepsBack bound f step) (hg : StepsBack bound g step') :
    StepsBack bound (fun s => (f s).union (g s)) (fun i j => step i j ∨ step' i j) where
  forward := fun hij => hij.elim hf.forward hg.forward
  contains_iff := by
    intro s hs i
    rw [Places.contains_union, Bool.or_eq_true, hf.contains_iff hs, hg.contains_iff hs, ← exists_or]
    exact exists_congr fun j => or_and_right.symm

theorem id : StepsBack bound id (fun i j => i = j) where
  forward := Nat.le_of_eq
  contains_iff := by simp

/-- As many steps back as the function is applied. -/
theorem iterate (hf : StepsBack bound f step) (n : Nat) : StepsBack bound f^[n] (Times step n) := by
  induction n with
  | zero => exact id
  | succ n ih =>
    rw [Function.iterate_succ']
    exact hf.comp ih

/-- If what is there is kept, at most as many steps back as the function is applied. -/
theorem iterate_union (hf : StepsBack bound f step) (n : Nat) :
    StepsBack bound (fun s => s.union (f s))^[n] (fun i j => ∃ m ≤ n, Times step m i j) := by
  have hforward : ∀ {n i j}, (∃ m ≤ n, Times step m i j) → i ≤ j := by
    rintro _ i j ⟨m, _, hm⟩
    exact (hf.iterate m).forward hm
  induction n with
  | zero => exact id.congr (fun i j _ => by simp [Times]) hforward
  | succ n ih =>
    rw [Function.iterate_succ']
    -- what has been reached, and one step more
    refine (ih.union (hf.comp ih)).congr (fun i j _ => ?_) hforward
    constructor
    · rintro ⟨m, hm, hj⟩
      cases m with
      | zero => exact .inl ⟨0, Nat.zero_le n, hj⟩
      | succ m =>
        obtain ⟨k, hk, hj⟩ := hj
        exact .inr ⟨k, hk, m, Nat.le_of_succ_le_succ hm, hj⟩
    · rintro (⟨m, hm, hj⟩ | ⟨k, hk, m, hm, hj⟩)
      · exact ⟨m, Nat.le_succ_of_le hm, hj⟩
      · exact ⟨m + 1, Nat.succ_le_succ hm, k, hk, hj⟩

end StepsBack

/-! ### The matcher -/

/-- To stop at the first set that does not change makes no difference. -/
theorem Overlay.iterate_eq (f : Places → Places) (n : Nat) (s : Places) :
    iterate f n s = f^[n] s := by
  induction n generalizing s with
  | zero => rfl
  | succ n ih =>
    rw [iterate]
    split
    · next h => rw [Function.iterate_fixed h]
    · rw [ih, Function.iterate_succ_apply]

namespace Node

variable {text : List Char} {i j : Nat}

/-- What stands around a place of the text. -/
theorem getElem?_neighbours (hi : i ≤ text.length) :
    (neighbours text)[i]? = some (charBefore? text i, text[i]?) := by
  have hbefore : (none :: text.map some)[i]? = some (charBefore? text i) := by
    cases i with
    | zero => rfl
    | succ i => simp [charBefore?, Nat.lt_of_succ_le hi]
  have hafter : (text.map some ++ [none])[i]? = some text[i]? := by
    rcases Nat.eq_or_lt_of_le hi with rfl | hlt
    · simp
    · simp [List.getElem?_append, hlt]
  rw [neighbours, List.getElem?_zip_eq_some]
  exact ⟨hbefore, hafter⟩

/-- The passes of a repetition up to a place of the text, as the matcher makes them: the least
number of them and then some more. -/
theorem spans_rep_iff {least : Nat} {most : Option Nat} {greedy : Bool} {r : Node}
    (hr : ∀ {i j}, r.Spans text i j → i ≤ j) (hj : j ≤ text.length) :
    (rep least most greedy r).Spans text i j ↔
      ∃ k, Times (r.Spans text) least i k ∧
        ∃ m ≤ (most.map (· - least)).getD (text.length + 1), Times (r.Spans text) m k j := by
  constructor
  · rintro ⟨n, hleast, hmost, hn⟩
    obtain ⟨m, rfl⟩ := Nat.exists_eq_add_of_le hleast
    obtain ⟨k, hk, hm⟩ := Times.add_iff.mp hn
    refine ⟨k, hk, ?_⟩
    cases most with
    | none =>
      -- steps that stay where they are can be left out, so the text bounds their number
      obtain ⟨m, hkm, hm⟩ := Times.shorten hr hm
      refine ⟨m, ?_, hm⟩
      simp only [Option.map_none, Option.getD_none]
      omega
    | some l =>
      refine ⟨m, ?_, hm⟩
      have := hmost l rfl
      simp only [Option.map_some, Option.getD_some]
      omega
  · rintro ⟨k, hk, m, hm, hkj⟩
    refine ⟨least + m, Nat.le_add_right least m, ?_, Times.add_iff.mpr ⟨k, hk, hkj⟩⟩
    rintro l rfl
    simp only [Option.map_some, Option.getD_some] at hm
    omega

/-- From the places where a match may end the matcher goes back to those where one starts. -/
theorem stepsBack_over (r : Node) :
    StepsBack text.length (r.over text).before (r.Spans text) := by
  induction r with
  | empty =>
    -- every place of the text passes
    have hall : StepsBack text.length (Places.below (text.length + 1)).inter
        (fun i j => True ∧ i = j) :=
      StepsBack.stay fun i hi => by simpa [Nat.lt_succ_iff] using hi
    exact hall.congr (fun i j _ => by simp [Spans]) Nat.le_of_eq
  | set s =>
    refine StepsBack.pass fun i => ?_
    rw [Places.contains_ofAnswers, List.getElem?_map]
    cases text[i]? <;> simp
  | look l =>
    refine StepsBack.stay fun i hi => ?_
    rw [Places.contains_ofAnswers, List.getElem?_map, getElem?_neighbours hi]
    rfl
  | seq a b iha ihb => exact iha.comp ihb
  | alt a b iha ihb => exact iha.union ihb
  | rep least most greedy r ih =>
    have hbefore : ((rep least most greedy r).over text).before =
        (r.over text).before^[least] ∘ (fun s => s.union ((r.over text).before s))^[
          (most.map (· - least)).getD (text.length + 1)] := by
      funext ends
      rw [Node.over, Overlay.before, Overlay.iterate_eq, Overlay.iterate_eq]
      rfl
    rw [hbefore]
    refine ((ih.iterate least).comp (ih.iterate_union _)).congr
      (fun i j hj => spans_rep_iff ih.forward hj) ?_
    rintro i j ⟨n, _, _, hn⟩
    exact (ih.iterate n).forward hn
  | group index r ih => exact ih

/-- A match does not end before it starts. -/
theorem le_of_spans {r : Node} (h : r.Spans text i j) : i ≤ j := (stepsBack_over r).forward h

/-- The matcher finds a match just if there is one. -/
theorem isMatch_iff (r : Node) :
    r.isMatch text = true ↔ ∃ i j, r.Spans text i j ∧ j ≤ text.length := by
  have hall : (Places.below (text.length + 1)).Within text.length := by
    intro i hi
    simpa [Nat.lt_succ_iff] using hi
  rw [isMatch, bne_iff_ne, Places.ne_empty_iff]
  refine exists_congr fun i => ?_
  rw [starts, (stepsBack_over r).contains_iff hall]
  simp only [Places.contains_below, decide_eq_true_eq, Nat.lt_succ_iff]

/-! ### Sequences -/

/-- Whether expressions match a stretch one after another. -/
def SpansAll (text : List Char) : List Node → Nat → Nat → Prop
  | [], i, j => i = j
  | r :: rs, i, j => ∃ k, r.Spans text i k ∧ SpansAll text rs k j

/-- Nodes in sequence match one after another. -/
theorem spansAll_append {rs rs' : List Node} :
    SpansAll text (rs ++ rs') i j ↔ ∃ k, SpansAll text rs i k ∧ SpansAll text rs' k j := by
  induction rs generalizing i with
  | nil => simp [SpansAll]
  | cons r rs ih =>
    simp only [List.cons_append, SpansAll, ih]
    constructor
    · rintro ⟨k, hk, l, hl, hj⟩
      exact ⟨l, ⟨k, hk, hl⟩, hj⟩
    · rintro ⟨l, ⟨k, hk, hl⟩, hj⟩
      exact ⟨k, hk, l, hl, hj⟩

theorem spansAll_singleton {r : Node} : SpansAll text [r] i j ↔ r.Spans text i j := by
  simp [SpansAll]

/-- A node made of items matches as they do in sequence. -/
theorem spans_ofItems (rs : List Node) :
    (ofItems rs).Spans text i j ↔ SpansAll text rs i j := by
  induction rs using ofItems.induct generalizing i with
  | case1 => rfl
  | case2 r => exact spansAll_singleton.symm
  | case3 r rs hrs ih =>
    rw [ofItems]
    · simp only [Spans, SpansAll, ih]
    · exact hrs

/-- The items of a node match as it does. -/
theorem spansAll_items (r : Node) : SpansAll text r.items i j ↔ r.Spans text i j := by
  induction r generalizing i j with
  | empty => rfl
  | seq a b iha ihb => simp only [items, spansAll_append, iha, ihb, Spans]
  | _ => exact spansAll_singleton

/-- To flatten sequences in a sequence makes no difference. -/
theorem spans_seqAll (rs : List Node) :
    (seqAll rs).Spans text i j ↔ SpansAll text rs i j := by
  rw [seqAll, spans_ofItems]
  induction rs generalizing i with
  | nil => rfl
  | cons r rs ih => simp only [List.flatMap_cons, spansAll_append, spansAll_items, ih, SpansAll]

/-- An expression between the two ends of the text matches just if it matches the whole text. -/
theorem isMatch_betweenEnds_iff (r : Node) :
    (seqAll [look .textStart, r, look .textEnd]).isMatch text = true ↔
      r.Spans text 0 text.length := by
  simp only [isMatch_iff, spans_seqAll, SpansAll, Spans, Look.holds, Option.isNone_iff_eq_none,
    List.getElem?_eq_none_iff]
  constructor
  · rintro ⟨i, _, ⟨_, ⟨hstart, rfl⟩, k, hk, _, ⟨hend, rfl⟩, rfl⟩, hj⟩
    obtain rfl : k = text.length := Nat.le_antisymm hj hend
    cases i with
    | zero => exact hk
    | succ i =>
      -- some character stands in front of every other place of the text
      have hi : text.length ≤ i := List.getElem?_eq_none_iff.mp hstart
      have := le_of_spans hk
      omega
  · intro h
    exact ⟨0, _, ⟨0, ⟨rfl, rfl⟩, _, h, _, ⟨Nat.le_refl _, rfl⟩, rfl⟩, Nat.le_refl _⟩

end Node

end RecordExpr.Regex
