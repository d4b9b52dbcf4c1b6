import RecordExpr.Proofs.Eval.Steps

/-!
# Stretches of texts

A substring consists of the characters at the places from the first one on and before the second
one, where a negative place counts as zero and one past the end as the end
(`substringOf_eq_charactersAt`). The evaluation comes to it by bringing both places into the text.
The first one is brought there before the second one, which is what keeps the bounds of the second
one in order (`substring?_eq_substringOf`).

In terms of lists, a substring is what `List.take` and `List.drop` leave (`substringOf_eq`), so that
its pieces and its own substrings are those of the text.

The main statement is `substring_at_places`.
-/

namespace RecordExpr

variable {env : Environment} {a b c d x : Expr} {s : String} {i j k l : WholeNumber}

/-! ### Characters at places -/

/-- The characters of a text at the places that satisfy a condition. -/
def charactersAt (p : Nat → Prop) [DecidablePred p] (s : String) : String :=
  String.ofList ((s.toList.zipIdx.filter fun c => p c.2).map Prod.fst)

/-- Characters are picked by their places, or cut off on both sides. -/
theorem filter_zipIdx (cs : List Char) (start stop first : Nat) :
    ((cs.zipIdx first).filter fun c => start ≤ c.2 ∧ c.2 < stop).map Prod.fst =
      (cs.take (stop - first)).drop (start - first) := by
  induction cs generalizing first with
  | nil => simp
  | cons c cs ih =>
    rw [List.zipIdx_cons, List.filter_cons]
    by_cases hstop : stop ≤ first
    · -- no place is before the end
      have hrest : stop - (first + 1) = 0 := by omega
      have hzero : stop - first = 0 := by omega
      rw [if_neg (by simp; omega), ih, hrest, hzero]
      simp
    have hsucc : stop - first = (stop - (first + 1)) + 1 := by omega
    by_cases hstart : first < start
    · have hbefore : start - first = (start - (first + 1)) + 1 := by omega
      rw [if_neg (by simp; omega), ih, hsucc, hbefore, List.take_succ_cons, List.drop_succ_cons]
    · have hbefore : start - first = 0 := by omega
      have hrest : start - (first + 1) = 0 := by omega
      rw [if_pos (by simp; omega), List.map_cons, ih, hsucc, hbefore, hrest, List.take_succ_cons,
        List.drop_zero, List.drop_zero]

/-! ### The two places -/

/-- Clamping is refused for bounds in the wrong order only. -/
theorem clamp?_of_le {n low high : Nat} (h : low ≤ high) :
    clamp? n low high = some (max low (min n high)) :=
  if_pos h

/-- Places that are not brought into a text first leave the same of it. -/
theorem take_drop_clamped {α : Type} (cs : List α) (start stop : Nat) :
    (cs.drop (min start cs.length)).take
        (max (min start cs.length) (min stop cs.length) - min start cs.length) =
      (cs.take stop).drop start := by
  rw [List.drop_take]
  by_cases hstart : start ≤ cs.length
  · rw [Nat.min_eq_left hstart]
    refine List.take_eq_take_iff.mpr ?_
    rw [List.length_drop]
    omega
  · have hdrop : cs.drop (min start cs.length) = [] := List.drop_eq_nil_of_le (by omega)
    rw [hdrop, List.drop_eq_nil_of_le (by omega), List.take_nil, List.take_nil]

/-- The bounds of the second place are in order. -/
theorem substring?_eq_some (s : String) (start : Nat) (stop : Option Nat) :
    substring? s start stop =
      some (String.ofList ((s.toList.take (stop.getD s.toList.length)).drop start)) := by
  have horder : min start s.toList.length ≤ s.toList.length := Nat.min_le_right _ _
  rw [substring?, clamp?_of_le horder]
  exact congrArg (some ∘ String.ofList) (take_drop_clamped _ _ _)

/-- A substring is cut out of the characters, and its places are never too large for that. -/
theorem substringOf_eq (s : String) (start : Nat) (stop : Option Nat) :
    substringOf s start stop =
      String.ofList ((s.toList.take (stop.getD s.toList.length)).drop start) := by
  simp only [substringOf, substring?_eq_some, Option.get_some]

/-- A substring consists of the characters at the places between its bounds. -/
theorem substringOf_eq_charactersAt (s : String) (start : Nat) (stop : Option Nat) :
    substringOf s start stop =
      charactersAt (fun p => start ≤ p ∧ p < stop.getD s.toList.length) s := by
  rw [substringOf_eq, charactersAt, filter_zipIdx, Nat.sub_zero, Nat.sub_zero]

theorem charactersAt_congr {p q : Nat → Prop} [DecidablePred p] [DecidablePred q]
    (h : ∀ n < s.length, p n ↔ q n) : charactersAt p s = charactersAt q s := by
  rw [charactersAt, charactersAt]
  refine congrArg (String.ofList <| List.map Prod.fst ·) (List.filter_congr fun c hc => ?_)
  have hlt : c.2 < s.length := by
    rw [← String.length_toList, ← Nat.zero_add s.toList.length]
    exact List.snd_lt_add_of_mem_zipIdx hc
  rw [decide_eq_decide]
  exact h c.2 hlt

/-! ### Pieces -/

/-- The text before a place and the text from it on make up the text. -/
theorem substringOf_append (s : String) (place : Nat) :
    substringOf s 0 (some place) ++ substringOf s place none = s := by
  rw [substringOf_eq, substringOf_eq, ← String.ofList_append, List.drop_zero, Option.getD_some,
    Option.getD_none, List.take_length, List.take_append_drop, String.ofList_toList]

/-- A substring of a substring is one of the text. -/
theorem substringOf_substringOf (s : String) (i j k l : Nat) :
    substringOf (substringOf s i (some j)) k (some l) =
      substringOf s (i + k) (some (min j (i + l))) := by
  simp only [substringOf_eq, Option.getD_some, String.toList_ofList]
  rw [List.take_drop, List.take_take, List.drop_drop, Nat.min_comm]

/-! ### Evaluation -/

theorem placeOf_of_wholeNumber (mismatch : EvalError)
    (ha : eval env a = .ok (.present (.wholeNumber i))) :
    placeOf env mismatch a = .ok (some i.toInt.toNat) := by
  rw [placeOf, ha]
  rfl

theorem eval_substringFrom_of_present (hx : eval env x = .ok (.present (.string s)))
    (ha : eval env a = .ok (.present (.wholeNumber i))) :
    eval env (.substringFrom x a) =
      .ok (.present (.string (substringOf s i.toInt.toNat none))) := by
  rw [eval_substringFrom, textOf_eq_some_iff.mpr hx, whenPresent_some, placeOf_of_wholeNumber _ ha,
    whenPresent_some]

theorem eval_substring_of_present (hx : eval env x = .ok (.present (.string s)))
    (ha : eval env a = .ok (.present (.wholeNumber i)))
    (hb : eval env b = .ok (.present (.wholeNumber j))) :
    eval env (.substring x a b) =
      .ok (.present (.string (substringOf s i.toInt.toNat (some j.toInt.toNat)))) := by
  rw [eval_substring, textOf_eq_some_iff.mpr hx, whenPresent_some, placeOf_of_wholeNumber _ ha,
    whenPresent_some, placeOf_of_wholeNumber _ hb, whenPresent_some]

/-- The constant whole number. -/
abbrev Expr.whole (n : WholeNumber) : Expr := .literal (.present (.wholeNumber n))

/-- A substring consists of the characters at the places from the first one on, and before the
second one if there is one, where negative places count as zero and places past the end as the end;
bringing the places into the text is never refused. So a text falls into two substrings at every
place, and a substring of a substring is one of the text, as long as its places are whole
numbers. -/
theorem substring_at_places (hx : eval env x = .ok (.present (.string s)))
    (ha : eval env a = .ok (.present (.wholeNumber i)))
    (hb : eval env b = .ok (.present (.wholeNumber j)))
    (hc : eval env c = .ok (.present (.wholeNumber k)))
    (hd : eval env d = .ok (.present (.wholeNumber l))) :
    eval env (.substring x a b) = .ok (.present (.string
      (charactersAt (fun p => max i.toInt 0 ≤ p ∧ p < min j.toInt s.length) s))) ∧
    eval env (.substringFrom x a) = .ok (.present (.string
      (charactersAt (fun p => max i.toInt 0 ≤ p) s))) ∧
    (∀ start stop, substring? s start stop ≠ none) ∧
    (∃ t u, eval env (.substring x (.whole .zero) c) = .ok (.present (.string t)) ∧
      eval env (.substringFrom x c) = .ok (.present (.string u)) ∧ t ++ u = s) ∧
    ∀ m n : WholeNumber, m.toInt = max i.toInt 0 + max k.toInt 0 →
      n.toInt = min (max j.toInt 0) (max i.toInt 0 + max l.toInt 0) →
        eval env (.substring (.substring x a b) c d) =
          eval env (.substring x (.whole m) (.whole n)) := by
  refine ⟨?_, ?_, fun start stop => ?_, ?_, fun m n hm hn => ?_⟩
  · rw [eval_substring_of_present hx ha hb, substringOf_eq_charactersAt, Option.getD_some]
    refine congrArg (Except.ok ∘ Result.present ∘ Value.string) (charactersAt_congr fun p hp => ?_)
    omega
  · rw [eval_substringFrom_of_present hx ha, substringOf_eq_charactersAt, Option.getD_none,
      String.length_toList]
    refine congrArg (Except.ok ∘ Result.present ∘ Value.string) (charactersAt_congr fun p hp => ?_)
    omega
  · -- places are brought into the text before it is cut
    rw [substring?_eq_some]
    exact Option.some_ne_none _
  · exact ⟨_, _, eval_substring_of_present hx rfl hc, eval_substringFrom_of_present hx hc,
      substringOf_append s _⟩
  · -- negative places count as zero on both sides
    have hxab := eval_substring_of_present hx ha hb
    have hstart : m.toInt.toNat = i.toInt.toNat + k.toInt.toNat := by omega
    have hstop : n.toInt.toNat = min j.toInt.toNat (i.toInt.toNat + l.toInt.toNat) := by omega
    rw [eval_substring_of_present hxab hc hd, substringOf_substringOf,
      eval_substring_of_present hx rfl rfl, hstart, hstop]

/-- Characters count and not bytes, a place past the end is the end, and a negative one is zero. -/
theorem substring_at_places_past_the_end :
    let x := Expr.literal (.present (.string "Grüße🙂"))
    let one : WholeNumber := ⟨1, by decide, by decide⟩
    let hundred : WholeNumber := ⟨100, by decide, by decide⟩
    let minusTwo : WholeNumber := ⟨-2, by decide, by decide⟩
    let three : WholeNumber := ⟨3, by decide, by decide⟩
    let four : WholeNumber := ⟨4, by decide, by decide⟩
    let behind := Expr.substring x (.whole one) (.whole hundred)
    eval .constant behind = .ok (.present (.string "rüße🙂")) ∧
    eval .constant (.substring behind (.whole minusTwo) (.whole three)) =
      eval .constant (.substring x (.whole one) (.whole four)) := by
  intro x one hundred minusTwo three four behind
  have hwhole (n : WholeNumber) : eval .constant (.whole n) = .ok (.present (.wholeNumber n)) := rfl
  obtain ⟨hbehind, -, -, -, hinner⟩ :=
    substring_at_places (rfl : eval .constant x = .ok (.present (.string "Grüße🙂")))
      (hwhole one) (hwhole hundred) (hwhole minusTwo) (hwhole three)
  refine ⟨?_, hinner one four (by decide) (by decide)⟩
  have hcharacters : charactersAt (fun p => max one.toInt 0 ≤ p ∧
      p < min hundred.toInt "Grüße🙂".length) "Grüße🙂" = "rüße🙂" := by decide +kernel
  rw [hbehind, hcharacters]

end RecordExpr
