import Mathlib.Algebra.Group.Nat.Defs
import RecordExpr.Text.Digits

/-!
# Digits that are written and read

A numeral is a number of digits together with what they stand for (`Numeral`). Numbers are written
as numerals, with zeros in front of them as well (`numeral_zeroPadded`), and the first digits of a
numeral stand for the quotient by a power of ten (`Numeral.take`). A run of digits at the beginning
of a text is taken off it up to its end or up to a limit, whichever comes first
(`spanDigits_append`).
-/

namespace RecordExpr.Text

variable {cs ds rest : List Char} {n width limit : Nat}

/-- Only digits. -/
def AllDigits (cs : List Char) : Prop := ∀ c ∈ cs, c.isDigit = true

theorem AllDigits.append (hc : AllDigits cs) (hd : AllDigits ds) : AllDigits (cs ++ ds) := by
  intro c h
  rcases List.mem_append.mp h with h | h
  · exact hc c h
  · exact hd c h

/-! ### The value of digits -/

/-- Digits on the left count for more by the length of those on the right. -/
theorem digitsValue_append (cs ds : List Char) :
    digitsValue (cs ++ ds) = 10 ^ ds.length * digitsValue cs + digitsValue ds := by
  show Nat.ofDigitChars 10 (cs ++ ds) 0 = _
  rw [Nat.ofDigitChars_append, Nat.ofDigitChars_eq_ofDigitChars_zero]
  rfl

theorem digitsValue_cons (c : Char) (cs : List Char) :
    digitsValue (c :: cs) = 10 ^ cs.length * (c.toNat - '0'.toNat) + digitsValue cs := by
  rw [← List.singleton_append, digitsValue_append]
  simp [digitsValue]

/-- A number is bounded by its number of digits. -/
theorem digitsValue_lt (h : AllDigits cs) : digitsValue cs < 10 ^ cs.length := by
  induction cs with
  | nil => exact Nat.one_pos
  | cons c cs ih =>
    have hrest : digitsValue cs < 10 ^ cs.length := ih fun d hd => h d (List.mem_cons_of_mem _ hd)
    have hc : c.toNat - '0'.toNat ≤ 9 := by
      have := (Char.isDigit_iff_toNat.mp (h c (List.mem_cons_self ..))).2
      have hnine : '9'.toNat = '0'.toNat + 9 := rfl
      omega
    have hmul : 10 ^ cs.length * (c.toNat - '0'.toNat) ≤ 10 ^ cs.length * 9 :=
      Nat.mul_le_mul_left _ hc
    rw [digitsValue_cons, List.length_cons, Nat.pow_succ]
    omega

/-- The first digits stand for what is left of the number without the others. -/
theorem digitsValue_take (h : AllDigits cs) (k : Nat) :
    digitsValue (cs.take k) = digitsValue cs / 10 ^ (cs.length - k) := by
  have hdrop : AllDigits (cs.drop k) := fun c hc => h c (List.mem_of_mem_drop hc)
  have hlt : digitsValue (cs.drop k) < 10 ^ (cs.length - k) := by
    have := digitsValue_lt hdrop
    rwa [List.length_drop] at this
  have hsplit : digitsValue cs =
      10 ^ (cs.length - k) * digitsValue (cs.take k) + digitsValue (cs.drop k) := by
    have := digitsValue_append (cs.take k) (cs.drop k)
    rwa [List.take_append_drop, List.length_drop] at this
  rw [hsplit, Nat.mul_add_div (Nat.pow_pos (by decide)), Nat.div_eq_of_lt hlt, Nat.add_zero]

/-! ### The digits of a number -/

/-- Exactly `width` digits, which stand for `n`. -/
structure Numeral (width n : Nat) (ds : List Char) : Prop where
  allDigits : AllDigits ds
  length_eq : ds.length = width
  value_eq : digitsValue ds = n

/-- A numeral stands for a number below the power of ten of its width. -/
theorem Numeral.lt (h : Numeral width n ds) : n < 10 ^ width := by
  rw [← h.value_eq, ← h.length_eq]
  exact digitsValue_lt h.allDigits

/-- Numerals in sequence make one numeral. -/
theorem Numeral.append {w m : Nat} (h : Numeral width n cs) (h' : Numeral w m ds) :
    Numeral (width + w) (10 ^ w * n + m) (cs ++ ds) where
  allDigits := h.allDigits.append h'.allDigits
  length_eq := by rw [List.length_append, h.length_eq, h'.length_eq]
  value_eq := by rw [digitsValue_append, h.value_eq, h'.length_eq, h'.value_eq]

/-- The first digits of a numeral are one for a quotient. -/
theorem Numeral.take {k : Nat} (h : Numeral width n ds) (hk : k ≤ width) :
    Numeral k (n / 10 ^ (width - k)) (ds.take k) where
  allDigits c hc := h.allDigits c (List.mem_of_mem_take hc)
  length_eq := by rw [List.length_take, h.length_eq, Nat.min_eq_left hk]
  value_eq := by rw [digitsValue_take h.allDigits, h.value_eq, h.length_eq]

theorem Numeral.exists_eq_cons (h : Numeral width n ds) (hw : 0 < width) :
    ∃ c cs, ds = c :: cs ∧ c.isDigit = true := by
  have hne : ds ≠ [] := List.ne_nil_of_length_pos (by rw [h.length_eq]; exact hw)
  obtain ⟨c, cs, rfl⟩ := List.exists_cons_of_ne_nil hne
  exact ⟨c, cs, rfl, h.allDigits c (List.mem_cons_self ..)⟩

/-- The digits of a number are a numeral for it. -/
theorem numeral_natDigits (n : Nat) : Numeral (natDigits n).length n (natDigits n) where
  allDigits _ := Nat.isDigit_of_mem_toDigits (by decide) (by decide)
  length_eq := rfl
  value_eq := Nat.ofDigitChars_toDigits (by decide) (by decide)

theorem lt_pow_length_natDigits (n : Nat) : n < 10 ^ (natDigits n).length :=
  (Nat.length_toDigits_le_iff (by decide) Nat.length_toDigits_pos).mp Nat.le.refl

/-- There are no more digits than needed. -/
theorem pow_length_natDigits_le (hn : 0 < n) : 10 ^ ((natDigits n).length - 1) ≤ n := by
  by_cases hone : (natDigits n).length - 1 = 0
  · rw [hone]
    exact hn
  · rw [← Nat.not_lt, ← Nat.length_toDigits_le_iff (by decide) (Nat.pos_of_ne_zero hone)]
    show ¬(natDigits n).length ≤ _
    omega

theorem numeral_replicate_zero (k : Nat) : Numeral k 0 (List.replicate k '0') where
  allDigits c hc := by
    rw [List.eq_of_mem_replicate hc]
    rfl
  length_eq := List.length_replicate
  value_eq := by
    show Nat.ofDigitChars 10 (List.replicate k '0') 0 = 0
    rw [Nat.ofDigitChars_replicate_zero, Nat.mul_zero]

/-- Zeros in front fill it to a width that is not too small. -/
theorem numeral_zeroPadded (hw : 0 < width) (hn : n < 10 ^ width) :
    Numeral width n (zeroPadded width n) := by
  have hlen : (natDigits n).length ≤ width := (Nat.length_toDigits_le_iff (by decide) hw).mpr hn
  have h := (numeral_replicate_zero (width - (natDigits n).length)).append (numeral_natDigits n)
  rwa [Nat.sub_add_cancel hlen, Nat.mul_zero, Nat.zero_add] at h

/-! ### Taking digits off a text -/

/-- The text after a run of digits does not begin with another one. -/
def EndsDigits (rest : List Char) : Prop := ∀ c ∈ rest.head?, c.isDigit = false

theorem takeWhile_isDigit_append (h : AllDigits ds) (hrest : EndsDigits rest) :
    (ds ++ rest).takeWhile Char.isDigit = ds := by
  rw [List.takeWhile_append_of_pos h]
  cases rest with
  | nil => simp
  | cons c rest => simp [hrest c rfl]

/-- Digits are taken up to a limit or to where they end. -/
theorem spanDigits_append (h : AllDigits ds) (hlen : ds.length ≤ limit)
    (hrest : ds.length = limit ∨ EndsDigits rest) :
    spanDigits limit (ds ++ rest) = (ds, rest) := by
  have hrun : ((ds ++ rest).take limit).takeWhile Char.isDigit = ds := by
    rw [List.take_append, List.take_of_length_le hlen]
    refine takeWhile_isDigit_append h ?_
    -- either nothing is left below the limit, or the rest begins with something else
    rcases hrest with heq | hends
    · rw [heq, Nat.sub_self]
      rintro _ ⟨⟩
    · intro c hc
      refine hends c ?_
      rw [List.head?_take] at hc
      split at hc
      · cases hc
      · exact hc
  rw [spanDigits, hrun, List.drop_left]

end RecordExpr.Text
