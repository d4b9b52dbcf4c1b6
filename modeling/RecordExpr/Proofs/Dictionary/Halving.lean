import RecordExpr.Dictionary

/-!
# Places found by halving

A list that is sorted by name need not be walked through to find the place of a name, since one
comparison tells in which half of it the place is. This is right only for a sorted list, and the
list stays sorted only if entries are put where they belong.

`fits_place` says what halving finds in a sorted list, by the invariant that the names before the
rest are smaller and the names behind it larger (`fits_search`). Hence an entry that is put there is
put where walking through the list would have put it (`store_eq_insertEntry`).
-/

namespace RecordExpr.Dictionary

variable {α : Type} {es : List (String × α)} {name : String} {low high : Nat}

/-- Where a name is in a list, or where it belongs. -/
inductive Place
  | taken (i : Nat)
  | free (i : Nat)
  deriving DecidableEq

/-- Looks for a name between two places, where the rest is halved each time. -/
def search (es : List (String × α)) (name : String) (low high : Nat) (h : high ≤ es.length) :
    Place :=
  if hlt : low < high then
    let middle := (low + high) / 2
    have hm : middle < es.length := by omega
    if es[middle].1 < name then search es name (middle + 1) high h
    else if name < es[middle].1 then search es name low middle (by omega)
    else .taken middle
  else .free low
termination_by high - low

def place (es : List (String × α)) (name : String) : Place :=
  search es name 0 es.length (Nat.le_refl _)

/-- The list with a value for a name, in the place of any other, or in a new place. -/
def store (es : List (String × α)) (name : String) (value : α) : List (String × α) :=
  match place es name with
  | .taken i => es.modify i fun e => (e.1, value)
  | .free i => es.insertIdx i (name, value)

/-- The place is the one of the name, or the names before it are smaller and the others larger. -/
def Place.Fits (es : List (String × α)) (name : String) : Place → Prop
  | taken i => ∃ e, es[i]? = some e ∧ e.1 = name
  | free i => i ≤ es.length ∧ ∀ j e, es[j]? = some e → if j < i then e.1 < name else name < e.1

/-! ### Finding a place -/

theorem lt_of_getElem? (hs : es.Pairwise (fun a b => a.1 < b.1)) {i j : Nat} {d e : String × α}
    (hd : es[i]? = some d) (he : es[j]? = some e) (hij : i < j) : d.1 < e.1 := by
  obtain ⟨hi, rfl⟩ := List.getElem?_eq_some_iff.mp hd
  obtain ⟨hj, rfl⟩ := List.getElem?_eq_some_iff.mp he
  exact List.pairwise_iff_getElem.mp hs i j hi hj hij

/-- The search halves what is left between names that are smaller and names that are larger. -/
theorem fits_search (hs : es.Pairwise (fun a b => a.1 < b.1)) (h : high ≤ es.length)
    (hle : low ≤ high) (hlow : ∀ j e, es[j]? = some e → j < low → e.1 < name)
    (hhigh : ∀ j e, es[j]? = some e → high ≤ j → name < e.1) :
    (search es name low high h).Fits es name := by
  fun_induction search es name low high h with
  | case1 low high h hlt middle hm hless ih =>
    refine ih (by omega) (fun j e he hj => ?_) hhigh
    -- what is not behind the middle is not larger than it
    rcases Nat.lt_or_eq_of_le (Nat.le_of_lt_succ hj) with hj | rfl
    · exact String.lt_trans (lt_of_getElem? hs he (List.getElem?_eq_getElem hm) hj) hless
    · obtain rfl := Option.some.inj ((List.getElem?_eq_getElem hm).symm.trans he)
      exact hless
  | case2 low high h hlt middle hm _ hmore ih =>
    refine ih (by omega) hlow fun j e he hj => ?_
    rcases Nat.lt_or_eq_of_le hj with hj | rfl
    · exact String.lt_trans hmore (lt_of_getElem? hs (List.getElem?_eq_getElem hm) he hj)
    · obtain rfl := Option.some.inj ((List.getElem?_eq_getElem hm).symm.trans he)
      exact hmore
  | case3 low high h hlt middle hm hless hmore =>
    exact ⟨_, List.getElem?_eq_getElem hm,
      String.le_antisymm (String.not_lt.mp hmore) (String.not_lt.mp hless)⟩
  | case4 low high h hlt =>
    refine ⟨by omega, fun j e he => ?_⟩
    split
    · next hj => exact hlow j e he hj
    · next hj => exact hhigh j e he (by omega)

theorem fits_place (hs : es.Pairwise (fun a b => a.1 < b.1)) (name : String) :
    (place es name).Fits es name := by
  refine fits_search hs _ (Nat.zero_le _) (fun _ _ _ hj => absurd hj (Nat.not_lt_zero _)) ?_
  intro j e he hj
  rw [List.getElem?_eq_none hj] at he
  cases he

/-! ### Putting an entry there -/

theorem insertEntry_of_lt {e : String × α} (h : e.1 < name) (value : α) :
    insertEntry name value (e :: es) = e :: insertEntry name value es := by
  have hne : name ≠ e.1 := by
    rintro rfl
    exact String.lt_irrefl _ h
  rw [insertEntry, if_neg (String.lt_asymm h), if_neg hne]

/-- Where the name is found, its entry gets the value. -/
theorem modify_eq_insertEntry (hs : es.Pairwise (fun a b => a.1 < b.1)) {i : Nat}
    (h : (Place.taken i).Fits es name) (value : α) :
    es.modify i (fun e => (e.1, value)) = insertEntry name value es := by
  obtain ⟨e, he, rfl⟩ := h
  induction es generalizing i with
  | nil => cases he
  | cons d es ih =>
    cases i with
    | zero =>
      cases he
      rw [List.modify_zero_cons, insertEntry, if_neg (String.lt_irrefl _), if_pos rfl]
    | succ i =>
      have hlt : d.1 < e.1 := lt_of_getElem? hs (rfl : (d :: es)[0]? = some d) he (Nat.succ_pos i)
      rw [List.modify_succ_cons, ih (List.pairwise_cons.mp hs).2 he, insertEntry_of_lt hlt]

/-- Where it is not, an entry is put in its place. -/
theorem insertIdx_eq_insertEntry {i : Nat} (h : (Place.free i).Fits es name) (value : α) :
    es.insertIdx i (name, value) = insertEntry name value es := by
  obtain ⟨hle, hfits⟩ := h
  induction es generalizing i with
  | nil =>
    obtain rfl : i = 0 := Nat.le_zero.mp hle
    rfl
  | cons d es ih =>
    have hd := hfits 0 d rfl
    cases i with
    | zero =>
      rw [if_neg (Nat.lt_irrefl 0)] at hd
      rw [List.insertIdx_zero, insertEntry, if_pos hd]
    | succ i =>
      rw [if_pos (Nat.succ_pos i)] at hd
      rw [List.insertIdx_succ_cons, insertEntry_of_lt hd,
        ih (Nat.le_of_succ_le_succ hle) fun j e he => by
          simpa only [Nat.succ_lt_succ_iff] using hfits (j + 1) e he]

/-- In a sorted list, halving puts an entry where walking through the list puts it. -/
theorem store_eq_insertEntry (hs : es.Pairwise (fun a b => a.1 < b.1)) (name : String) (value : α) :
    store es name value = insertEntry name value es := by
  have hfits := fits_place hs name
  unfold store
  split
  · next i heq =>
    rw [heq] at hfits
    exact modify_eq_insertEntry hs hfits value
  · next i heq =>
    rw [heq] at hfits
    exact insertIdx_eq_insertEntry hfits value

end RecordExpr.Dictionary
