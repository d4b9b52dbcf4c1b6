/-!
# Dictionaries

A dictionary holds one value for each of its names, in the order of the names. So two dictionaries
with the same values for the same names are equal.

The view of a dictionary is `get?`; `get?_insert` and `get?_erase` say what changes do to it, and
`ext_get?` that there is nothing else to a dictionary.
-/

namespace RecordExpr

/-- Values by name, in increasing order of the names. -/
structure Dictionary (α : Type) where
  entries : List (String × α)
  sorted : entries.Pairwise (fun a b => a.1 < b.1)

namespace Dictionary

variable {α : Type}

def empty : Dictionary α := ⟨[], .nil⟩

def get? (d : Dictionary α) (name : String) : Option α := d.entries.lookup name

def names (d : Dictionary α) : List String := d.entries.map (·.1)

def size (d : Dictionary α) : Nat := d.entries.length

/-! ### Insertion -/

def insertEntry (name : String) (value : α) : List (String × α) → List (String × α)
  | [] => [(name, value)]
  | e :: es =>
    if name < e.1 then (name, value) :: e :: es
    else if name = e.1 then (name, value) :: es
    else e :: insertEntry name value es

/-- Nothing comes into a list but the entry that is inserted. -/
theorem mem_insertEntry {name : String} {value : α} {es : List (String × α)} {e : String × α}
    (h : e ∈ insertEntry name value es) : e = (name, value) ∨ e ∈ es := by
  induction es with
  | nil => simpa [insertEntry] using h
  | cons e' es ih =>
    simp only [insertEntry] at h
    split at h
    · simpa using h
    · split at h
      · simp only [List.mem_cons] at h ⊢
        exact h.imp_right .inr
      · simp only [List.mem_cons] at h ⊢
        rcases h with h | h
        · exact .inr (.inl h)
        · exact (ih h).imp_right .inr

private theorem lt_of_not_lt_of_ne {a b : String} (h : ¬ a < b) (h' : a ≠ b) : b < a :=
  Decidable.byContradiction fun h'' =>
    h' (String.le_antisymm (String.not_lt.1 h'') (String.not_lt.1 h))

/-- The names stay in strict order. -/
theorem pairwise_insertEntry (name : String) (value : α) {es : List (String × α)}
    (h : es.Pairwise (fun a b => a.1 < b.1)) :
    (insertEntry name value es).Pairwise (fun a b => a.1 < b.1) := by
  induction es with
  | nil => simp [insertEntry]
  | cons e es ih =>
    obtain ⟨he, hes⟩ := List.pairwise_cons.1 h
    simp only [insertEntry]
    split
    · rename_i hlt
      -- the entry comes first, before names that are larger
      refine List.pairwise_cons.2 ⟨fun e' h' => ?_, h⟩
      rcases List.mem_cons.1 h' with rfl | h'
      · exact hlt
      · exact String.lt_trans hlt (he e' h')
    · rename_i hlt
      split
      · rename_i heq
        subst heq
        -- the entry takes the place of one with its name
        exact List.pairwise_cons.2 ⟨he, hes⟩
      · rename_i hne
        refine List.pairwise_cons.2 ⟨fun e' h' => ?_, ih hes⟩
        rcases mem_insertEntry h' with rfl | h'
        · exact lt_of_not_lt_of_ne hlt hne
        · exact he e' h'

/-- The dictionary with a value for a name, in the place of any other. -/
def insert (d : Dictionary α) (name : String) (value : α) : Dictionary α :=
  ⟨insertEntry name value d.entries, pairwise_insertEntry name value d.sorted⟩

/-- The dictionary with some values, of which the last for a name counts. -/
def ofList (es : List (String × α)) : Dictionary α :=
  es.foldl (fun d e => d.insert e.1 e.2) empty

/-! ### Removal -/

/-- The dictionary without a name. -/
def erase (d : Dictionary α) (name : String) : Dictionary α :=
  ⟨d.entries.filter (·.1 != name), d.sorted.filter _⟩

/-! ### The view -/

private theorem lookup_cons_eq (e : String × α) (es : List (String × α)) (name : String) :
    (e :: es).lookup name = if name = e.1 then some e.2 else es.lookup name := by
  obtain ⟨k, v⟩ := e
  rw [List.lookup_cons]
  by_cases h : name = k
  · simp [h]
  · simp [beq_eq_false_iff_ne.2 h, h]

/-- What was inserted is found, and all other names as before. -/
theorem lookup_insertEntry (name : String) (value : α) (es : List (String × α)) (other : String) :
    (insertEntry name value es).lookup other =
      if other = name then some value else es.lookup other := by
  induction es with
  | nil => simp [insertEntry, lookup_cons_eq]
  | cons e es ih =>
    simp only [insertEntry]
    split
    · rw [lookup_cons_eq]
    · split
      · rename_i heq
        simp only [lookup_cons_eq, heq]
        split <;> rfl
      · rename_i hne
        simp only [lookup_cons_eq, ih]
        by_cases h : other = e.1
        · simp [h, Ne.symm hne]
        · simp [h]

theorem lookup_filter_ne (name other : String) (es : List (String × α)) :
    (es.filter (·.1 != name)).lookup other = if other = name then none else es.lookup other := by
  induction es with
  | nil => simp
  | cons e es ih =>
    by_cases h : e.1 = name
    · have : (e.1 != name) = false := by simp [h]
      rw [List.filter_cons, this, if_neg Bool.false_ne_true, ih, lookup_cons_eq, h]
      by_cases h' : other = name <;> simp [h']
    · by_cases h' : other = e.1
      · subst h'
        simp [lookup_cons_eq, h]
      · simp [lookup_cons_eq, ih, h, h']

/-- A dictionary with an entry set has it under its name, and is unchanged elsewhere. -/
@[simp]
theorem get?_insert (d : Dictionary α) (name : String) (value : α) (other : String) :
    (d.insert name value).get? other = if other = name then some value else d.get? other :=
  lookup_insertEntry name value d.entries other

/-- One with an entry removed has nothing under its name, and is unchanged elsewhere. -/
@[simp]
theorem get?_erase (d : Dictionary α) (name other : String) :
    (d.erase name).get? other = if other = name then none else d.get? other :=
  lookup_filter_ne name other d.entries

@[simp]
theorem get?_empty (name : String) : (empty : Dictionary α).get? name = none := rfl

/-- The entries are what is found under the names. -/
theorem mem_entries_iff {d : Dictionary α} {name : String} {value : α} :
    (name, value) ∈ d.entries ↔ d.get? name = some value := by
  rw [get?, List.lookup_eq_some_iff]
  constructor
  · intro h
    obtain ⟨before, after, heq⟩ := List.append_of_mem h
    have hs : (before ++ (name, value) :: after).Pairwise (fun a b => a.1 < b.1) := heq ▸ d.sorted
    refine ⟨before, after, heq, fun e he => bne_iff_ne.2 fun hname => ?_⟩
    have hlt : e.1 < name := (List.pairwise_append.1 hs).2.2 e he _ (List.mem_cons_self ..)
    rw [hname] at hlt
    exact String.lt_irrefl _ hlt
  · rintro ⟨before, after, heq, _⟩
    rw [heq]
    exact List.mem_append_right _ (List.mem_cons_self ..)

/-! ### Names -/

theorem mem_names_iff {d : Dictionary α} {name : String} :
    name ∈ d.names ↔ (d.get? name).isSome := by
  rw [get?, List.lookup_isSome_iff, names, List.mem_map]
  constructor
  · rintro ⟨e, he, rfl⟩
    exact ⟨e, he, BEq.rfl⟩
  · rintro ⟨e, he, h⟩
    exact ⟨e, he, (eq_of_beq h).symm⟩

/-- A dictionary has each of its names once. -/
theorem nodup_names (d : Dictionary α) : d.names.Nodup := by
  rw [names, List.Nodup, List.pairwise_map]
  refine d.sorted.imp fun {a b} h he => ?_
  rw [he] at h
  exact String.lt_irrefl _ h

theorem length_names (d : Dictionary α) : d.names.length = d.size := by
  rw [names, List.length_map, size]

/-! ### Equality -/

theorem nodup_entries (d : Dictionary α) : d.entries.Nodup := by
  have h : (d.entries.map (·.1)).Nodup := d.nodup_names
  rw [List.Nodup, List.pairwise_map] at h
  exact h.imp fun hne he => hne (congrArg Prod.fst he)

/-- A dictionary is its view. -/
theorem ext_get? {d d' : Dictionary α} (h : ∀ name, d.get? name = d'.get? name) : d = d' := by
  have hperm : d.entries.Perm d'.entries := by
    refine (List.perm_ext_iff_of_nodup d.nodup_entries d'.nodup_entries).2 fun e => ?_
    rw [mem_entries_iff, mem_entries_iff, h]
  have heq : d.entries = d'.entries :=
    hperm.eq_of_pairwise (fun _ _ _ _ hab hba => absurd hba (String.lt_asymm hab))
      d.sorted d'.sorted
  cases d
  cases d'
  cases heq
  rfl

end Dictionary

end RecordExpr
