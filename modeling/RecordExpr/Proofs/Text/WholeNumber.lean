import Mathlib.Data.List.DropRight
import RecordExpr.Coercion
import RecordExpr.Proofs.Text.Digits

/-!
# Whole numbers as texts

A text is read as a whole number if it is a sign, which may be missing, and one or more digits, with
nothing but blanks around them, and what they stand for fits into 64 bits. All other texts are
refused as they are, blanks included (`readWholeNumber_exact`).

* `trims_iff`: trimming leaves what has only blanks around it and none at its ends;
* `spellsNat_iff`, `signedValue?_eq_some_iff`: the numbers that are read are those that the digits
  spell, one after another;
* `spellsInt_intDigits`: a number is written as digits that spell it.
-/

namespace RecordExpr

namespace Text

variable {cs ds before after : List Char} {c : Char} {n : Nat} {i : Int}

/-! ### Trimming -/

/-- Only blanks. -/
def AllBlank (cs : List Char) : Prop := ∀ c ∈ cs, isBlank c = true

/-- The text `ds` is `cs` without the blanks at its ends. -/
structure Trims (cs ds : List Char) : Prop where
  split : ∃ before after, cs = before ++ ds ++ after ∧ AllBlank before ∧ AllBlank after
  head : ∀ c ∈ ds.head?, isBlank c = false
  last : ∀ c ∈ ds.getLast?, isBlank c = false

theorem skipBlanks_append (h : AllBlank before) (cs : List Char) :
    skipBlanks (before ++ cs) = skipBlanks cs := List.dropWhile_append_of_pos h

/-- What is left without blanks at both ends is the trimmed text. -/
theorem Trims.trimmed_eq (h : Trims cs ds) : trimmed cs = ds := by
  obtain ⟨⟨before, after, rfl, hbefore, hafter⟩, hhead, hlast⟩ := h
  have hafter' : AllBlank after.reverse := fun c hc => hafter c (List.mem_reverse.mp hc)
  rw [List.append_assoc, trimmed, skipBlanks_append hbefore]
  cases ds with
  | nil =>
    have hnil : skipBlanks after = [] := List.dropWhile_eq_nil_iff.mpr hafter
    rw [List.nil_append, hnil]
    rfl
  | cons d ds =>
    have hstart : skipBlanks (d :: ds ++ after) = d :: ds ++ after := skipBlanks_eq_self hhead
    rw [← List.head?_reverse] at hlast
    rw [hstart, List.reverse_append, skipBlanks_append hafter', skipBlanks_eq_self hlast,
      List.reverse_reverse]

/-- What is skipped is blank, and what comes after it is not. -/
theorem exists_skipBlanks (cs : List Char) : ∃ before, cs = before ++ skipBlanks cs ∧
    AllBlank before ∧ ∀ c ∈ (skipBlanks cs).head?, isBlank c = false := by
  induction cs with
  | nil => exact ⟨[], rfl, by simp [AllBlank], by simp [skipBlanks]⟩
  | cons c cs ih =>
    by_cases hc : isBlank c = true
    · have hskip : skipBlanks (c :: cs) = skipBlanks cs := List.dropWhile_cons_of_pos hc
      obtain ⟨before, hcs, hbefore, hhead⟩ := ih
      rw [hskip]
      exact ⟨c :: before, congrArg (c :: ·) hcs, List.forall_mem_cons.mpr ⟨hc, hbefore⟩, hhead⟩
    · have hskip : skipBlanks (c :: cs) = c :: cs := List.dropWhile_cons_of_neg hc
      rw [hskip]
      exact ⟨[], rfl, by simp [AllBlank], by simpa using hc⟩

theorem trims_trimmed (cs : List Char) : Trims cs (trimmed cs) := by
  obtain ⟨before, hcs, hbefore, hhead⟩ := exists_skipBlanks cs
  obtain ⟨after, hrest, hafter, hlast⟩ := exists_skipBlanks (skipBlanks cs).reverse
  have hsplit : skipBlanks cs = trimmed cs ++ after.reverse := by
    rw [trimmed, ← List.reverse_append, ← hrest, List.reverse_reverse]
  refine ⟨⟨before, after.reverse, ?_, hbefore, ?_⟩, ?_, ?_⟩
  · rw [List.append_assoc, ← hsplit]
    exact hcs
  · exact fun c hc => hafter c (List.mem_reverse.mp hc)
  · -- what is left begins where the skipping stopped, or nothing is left
    intro c hc
    refine hhead c ?_
    rw [hsplit, List.head?_append, Option.mem_def.mp hc]
    rfl
  · rwa [trimmed, List.getLast?_reverse]

/-- There is one text that is left. -/
theorem trims_iff : Trims cs ds ↔ trimmed cs = ds :=
  ⟨Trims.trimmed_eq, fun h => h ▸ trims_trimmed cs⟩

/-! ### What digits spell -/

/-- One or more digits and the number that they stand for: another digit makes ten times as much,
and that digit. -/
inductive SpellsNat : List Char → Nat → Prop
  | digit {c : Char} (hc : c.isDigit = true) : SpellsNat [c] (c.toNat - '0'.toNat)
  | snoc {cs : List Char} {n : Nat} {c : Char} (h : SpellsNat cs n) (hc : c.isDigit = true) :
    SpellsNat (cs ++ [c]) (10 * n + (c.toNat - '0'.toNat))

/-- One or more digits that may have a sign in front of them, and the integer they stand for. -/
inductive SpellsInt : List Char → Int → Prop
  | unsigned {cs : List Char} {n : Nat} (h : SpellsNat cs n) : SpellsInt cs n
  | plus {cs : List Char} {n : Nat} (h : SpellsNat cs n) : SpellsInt ('+' :: cs) n
  | minus {cs : List Char} {n : Nat} (h : SpellsNat cs n) : SpellsInt ('-' :: cs) (-n)

theorem digitsValue_snoc (cs : List Char) (c : Char) :
    digitsValue (cs ++ [c]) = 10 * digitsValue cs + (c.toNat - '0'.toNat) := by
  rw [digitsValue_append]
  simp [digitsValue]

/-- Digits spell the number that is their value. -/
theorem spellsNat_iff : SpellsNat cs n ↔ cs ≠ [] ∧ AllDigits cs ∧ digitsValue cs = n := by
  constructor
  · intro h
    induction h with
    | @digit c hc => exact ⟨by simp, by simpa [AllDigits] using hc, by simp [digitsValue]⟩
    | @snoc cs n c _ hc ih =>
      have hdigit : AllDigits [c] := by simpa [AllDigits] using hc
      exact ⟨by simp, ih.2.1.append hdigit, by rw [digitsValue_snoc, ih.2.2]⟩
  · rintro ⟨hne, hall, rfl⟩
    induction cs using List.reverseRecOn with
    | nil => exact absurd rfl hne
    | append_singleton cs c ih =>
      have hc : c.isDigit = true := hall c (by simp)
      cases cs with
      | nil => simpa [digitsValue] using SpellsNat.digit hc
      | cons d ds =>
        rw [digitsValue_snoc]
        exact .snoc (ih (List.cons_ne_nil d ds) fun e he => hall e (List.mem_append_left _ he)) hc

theorem SpellsNat.exists_cons (h : SpellsNat cs n) : ∃ c ds, cs = c :: ds ∧ c.isDigit = true := by
  obtain ⟨hne, hall, -⟩ := spellsNat_iff.mp h
  obtain ⟨c, ds, rfl⟩ := List.exists_cons_of_ne_nil hne
  exact ⟨c, ds, rfl, hall c (List.mem_cons_self ..)⟩

/-- An integer is a sign, if any, and then digits. -/
theorem SpellsInt.exists_sign (h : SpellsInt cs i) : ∃ sign ds n, cs = sign ++ ds ∧
    (∀ c ∈ sign, isBlank c = false) ∧ SpellsNat ds n := by
  cases h with
  | unsigned h => exact ⟨[], cs, _, rfl, by simp, h⟩
  | @plus ds n h => exact ⟨['+'], ds, n, rfl, List.forall_mem_singleton.mpr rfl, h⟩
  | @minus ds n h => exact ⟨['-'], ds, n, rfl, List.forall_mem_singleton.mpr rfl, h⟩

/-- There are no blanks in a number, so those around it are all that trimming takes off. -/
theorem SpellsInt.trims (h : SpellsInt cs i) (hbefore : AllBlank before) (hafter : AllBlank after) :
    Trims (before ++ cs ++ after) cs := by
  have hblank : ∀ c ∈ cs, isBlank c = false := by
    obtain ⟨sign, ds, n, rfl, hsign, hds⟩ := h.exists_sign
    intro c hc
    rcases List.mem_append.mp hc with hc | hc
    · exact hsign c hc
    · exact isBlank_of_isDigit ((spellsNat_iff.mp hds).2.1 c hc)
  refine ⟨⟨before, after, rfl, hbefore, hafter⟩, fun c hc => hblank c ?_, fun c hc => hblank c ?_⟩
  · exact List.mem_of_mem_head? hc
  · exact List.mem_of_mem_getLast? hc

/-- A number is written as what spells it. -/
theorem spellsInt_intDigits (i : Int) : SpellsInt (intDigits i) i := by
  have hne : natDigits i.natAbs ≠ [] := List.ne_nil_of_length_pos Nat.length_toDigits_pos
  have hnumeral := numeral_natDigits i.natAbs
  have hspells : SpellsNat (natDigits i.natAbs) i.natAbs :=
    spellsNat_iff.mpr ⟨hne, hnumeral.allDigits, hnumeral.value_eq⟩
  unfold intDigits
  split
  · have hi : -(i.natAbs : Int) = i := by omega
    have h := SpellsInt.minus hspells
    rwa [hi] at h
  · have hi : (i.natAbs : Int) = i := by omega
    have h := SpellsInt.unsigned hspells
    rwa [hi] at h

end Text

open Text

namespace WholeNumber

variable {cs : List Char} {i : Int} {n : WholeNumber}

/-- Digits without a sign are read as what they spell. -/
theorem unsigned_eq_some_iff {f : Nat → Int} :
    (if cs ≠ [] ∧ cs.all Char.isDigit then some (f (digitsValue cs)) else none) = some i ↔
      ∃ m, SpellsNat cs m ∧ f m = i := by
  rw [Option.ite_none_right_eq_some, Option.some_inj]
  constructor
  · rintro ⟨⟨hne, hall⟩, rfl⟩
    exact ⟨_, spellsNat_iff.mpr ⟨hne, List.all_eq_true.mp hall, rfl⟩, rfl⟩
  · rintro ⟨m, h, rfl⟩
    obtain ⟨hne, hall, rfl⟩ := spellsNat_iff.mp h
    exact ⟨⟨hne, List.all_eq_true.mpr hall⟩, rfl⟩

/-- The texts that are read as integers are those that spell one. -/
theorem signedValue?_eq_some_iff : signedValue? cs = some i ↔ SpellsInt cs i := by
  constructor
  · intro h
    unfold signedValue? at h
    split at h
    · obtain ⟨m, hm, rfl⟩ := (unsigned_eq_some_iff (f := fun m => -m)).mp h
      exact .minus hm
    · obtain ⟨m, hm, rfl⟩ := unsigned_eq_some_iff.mp h
      exact .plus hm
    · obtain ⟨m, hm, rfl⟩ := unsigned_eq_some_iff.mp h
      exact .unsigned hm
  · intro h
    cases h with
    | minus h => exact (unsigned_eq_some_iff (f := fun m => -m)).mpr ⟨_, h, rfl⟩
    | plus h => exact unsigned_eq_some_iff.mpr ⟨_, h, rfl⟩
    | unsigned h =>
      -- a digit is none of the signs
      obtain ⟨c, ds, rfl, hc⟩ := h.exists_cons
      rw [signedValue?]
      · exact unsigned_eq_some_iff.mpr ⟨_, h, rfl⟩
      · rintro _ ⟨⟩
        cases hc
      · rintro _ ⟨⟩
        cases hc

/-- Whole numbers are read from what spells them within 64 bits, with blanks around it. -/
theorem parse?_eq_some_iff {text : String} :
    parse? text = some n ↔ ∃ ds, Trims text.toList ds ∧ SpellsInt ds n.toInt := by
  rw [parse?, Option.bind_eq_bind, Option.bind_eq_some_iff]
  simp only [signedValue?_eq_some_iff, ofInt?_eq_some_iff, trims_iff]
  constructor
  · rintro ⟨_, h, rfl⟩
    exact ⟨_, rfl, h⟩
  · rintro ⟨_, rfl, h⟩
    exact ⟨_, h, rfl⟩

end WholeNumber

theorem orCoercionError_eq_ok_iff {α : Type} {text : String} {k : Kind} {o : Option α} {a : α} :
    orCoercionError text k o = .ok a ↔ o = some a := by
  cases o <;> simp [orCoercionError]

theorem orCoercionError_eq_error_iff {α : Type} {text : String} {k : Kind} {o : Option α}
    {err : EvalError} :
    orCoercionError text k o = .error err ↔ err = .coercionFailed text k ∧ o = none := by
  cases o <;> simp [orCoercionError, eq_comm]

/-- A text is read as a whole number just if it is an optional sign and one or more digits, blanks
at its ends apart, and the integer that they stand for fits into 64 bits. If not, the error names
the text with the blanks. A whole number that is written is read back, whatever blanks are put
around its text. -/
theorem readWholeNumber_exact :
    (∀ text n, readWholeNumber text = .ok n ↔
      ∃ ds, Trims text.toList ds ∧ SpellsInt ds n.toInt) ∧
    (∀ text err, readWholeNumber text = .error err ↔ err = .coercionFailed text .wholeNumber ∧
      ∀ ds i, Trims text.toList ds → SpellsInt ds i →
        i < -0x8000000000000000 ∨ 0x8000000000000000 ≤ i) ∧
    ∀ (n : WholeNumber) (dateFormat : Option String) (before after : String),
      AllBlank before.toList → AllBlank after.toList →
        ∃ text, Value.render dateFormat (.wholeNumber n) = .ok text ∧
          readWholeNumber (before ++ text ++ after) = .ok n := by
  have hok (text : String) (n : WholeNumber) : readWholeNumber text = .ok n ↔
      ∃ ds, Trims text.toList ds ∧ SpellsInt ds n.toInt := by
    rw [readWholeNumber, orCoercionError_eq_ok_iff, WholeNumber.parse?_eq_some_iff]
  refine ⟨hok, fun text err => ?_, fun n dateFormat before after hbefore hafter => ?_⟩
  · rw [readWholeNumber, orCoercionError_eq_error_iff, Option.eq_none_iff_forall_ne_some]
    refine and_congr_right fun _ => ⟨fun h ds i htrims hspells => ?_, fun h n hn => ?_⟩
    · -- an integer that fits would be read
      by_contra hrange
      rw [not_or, Int.not_lt, Int.not_le] at hrange
      obtain ⟨n, rfl⟩ := WholeNumber.exists_toInt_iff.mpr hrange
      exact h n (WholeNumber.parse?_eq_some_iff.mpr ⟨ds, htrims, hspells⟩)
    · -- a whole number is within its bounds
      obtain ⟨ds, htrims, hspells⟩ := WholeNumber.parse?_eq_some_iff.mp hn
      have := n.lower
      have := n.upper
      have := h ds n.toInt htrims hspells
      omega
  · refine ⟨n.render, rfl, (hok _ n).mpr ⟨intDigits n.toInt, ?_, spellsInt_intDigits _⟩⟩
    simp only [WholeNumber.render, String.toList_append, String.toList_ofList]
    exact (spellsInt_intDigits n.toInt).trims hbefore hafter

/-- The least whole number is read back with blanks of several kinds around it, and the integer next
to it is refused. -/
theorem readWholeNumber_exact_at_least :
    AllBlank "\t\u3000".toList ∧ AllBlank "\n".toList ∧
    (∃ text, Value.render none (.wholeNumber .least) = .ok text ∧
      readWholeNumber ("\t\u3000" ++ text ++ "\n") = .ok .least) ∧
    readWholeNumber " -9223372036854775809" =
      .error (.coercionFailed " -9223372036854775809" .wholeNumber) := by
  obtain ⟨-, herror, hback⟩ := readWholeNumber_exact
  have hbefore : AllBlank "\t\u3000".toList :=
    List.forall_mem_cons.mpr ⟨rfl, List.forall_mem_singleton.mpr rfl⟩
  have hafter : AllBlank "\n".toList := List.forall_mem_singleton.mpr rfl
  refine ⟨hbefore, hafter, hback .least none _ _ hbefore hafter, (herror _ _).mpr ⟨rfl, ?_⟩⟩
  intro ds i htrims hspells
  have hds : "-9223372036854775809".toList = ds := htrims.trimmed_eq
  have hi : some (-9223372036854775809) = some i := by
    rw [← WholeNumber.signedValue?_eq_some_iff, ← hds] at hspells
    exact hspells
  cases hi
  exact .inl (by decide)

end RecordExpr
