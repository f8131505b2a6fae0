/-!
# Lists of named values in ascending order

A list of pairs is *ascending* when its names strictly increase, in the order of code points.
`get?`, `insert` and `erase` read and change one name; on ascending lists they behave as on a
finite map, and `insert` and `erase` keep a list ascending.
-/

namespace OrderDesk

/-- Names with values. -/
abbrev Fields (α : Type) := List (String × α)

namespace Fields

variable {α : Type}

/-- The names strictly increase. -/
def Ascending (fs : Fields α) : Prop := fs.Pairwise fun p q => p.1 < q.1

/-- The names, in order. -/
def keys (fs : Fields α) : List String := fs.map Prod.fst

/-- The value under a name. -/
def get? : Fields α → String → Option α
  | [], _ => none
  | (k, v) :: fs, key => if k = key then some v else get? fs key

/-- The fields with `value` under `key`, replacing the value that was there. -/
def insert : Fields α → String → α → Fields α
  | [], key, value => [(key, value)]
  | (k, v) :: fs, key, value =>
    if k < key then (k, v) :: insert fs key value
    else if k = key then (key, value) :: fs
    else (key, value) :: (k, v) :: fs

/-- The fields without `key`. -/
def erase (fs : Fields α) (key : String) : Fields α := fs.filter fun p => p.1 != key

theorem mem_of_mem_insert {fs : Fields α} {key : String} {value : α} {p : String × α}
    (h : p ∈ insert fs key value) :
  p = (key, value) ∨ p ∈ fs
  := by
  induction fs with
  | nil => simpa [insert] using h
  | cons q fs ih =>
    obtain ⟨k, v⟩ := q
    unfold insert at h
    split at h
    · rcases List.mem_cons.1 h with h | h
      · exact Or.inr (h ▸ List.mem_cons_self)
      · exact (ih h).imp_right (List.mem_cons_of_mem _)
    · split at h
      · rcases List.mem_cons.1 h with h | h
        · exact Or.inl h
        · exact Or.inr (List.mem_cons_of_mem _ h)
      · rcases List.mem_cons.1 h with h | h
        · exact Or.inl h
        · exact Or.inr h

theorem mem_of_get? {fs : Fields α} {key : String} {value : α}
    (h : get? fs key = some value) :
  (key, value) ∈ fs
  := by
  induction fs with
  | nil => simp [get?] at h
  | cons q fs ih =>
    obtain ⟨k, v⟩ := q
    simp only [get?] at h
    split at h
    · rename_i hk
      cases h
      exact hk ▸ List.mem_cons_self
    · exact List.mem_cons_of_mem _ (ih h)

/-- On ascending fields the value under a name is the one that stands beside it. -/
theorem Ascending.get?_of_mem {fs : Fields α} (h : Ascending fs) {key : String} {value : α}
    (hm : (key, value) ∈ fs) :
  get? fs key = some value
  := by
  induction fs with
  | nil => cases hm
  | cons q fs ih =>
    obtain ⟨k, v⟩ := q
    obtain ⟨hk, hfs⟩ := List.pairwise_cons.1 h
    rcases List.mem_cons.1 hm with heq | hm
    · cases heq
      simp [get?]
    · have hne : k ≠ key := fun heq => String.lt_irrefl key (heq ▸ hk _ hm)
      simpa [get?, hne] using ih hfs hm

/-- On ascending fields a value stands beside a name exactly if it is found under it. -/
theorem Ascending.mem_iff {fs : Fields α} (h : Ascending fs) {key : String} {value : α} :
  (key, value) ∈ fs ↔ get? fs key = some value
  := ⟨h.get?_of_mem, mem_of_get?⟩

theorem lt_of_not_lt_of_ne {a b : String} (h : ¬a < b) (hne : a ≠ b) :
  b < a
  := Decidable.by_contra fun h' =>
    hne (String.le_antisymm (String.not_lt.1 h') (String.not_lt.1 h))

/-- Inserting keeps fields ascending. -/
theorem Ascending.insert {fs : Fields α} (h : Ascending fs) (key : String) (value : α) :
  Ascending (fs.insert key value)
  := by
  induction fs with
  | nil => simp [Fields.insert, Ascending]
  | cons q fs ih =>
    obtain ⟨k, v⟩ := q
    obtain ⟨hk, hfs⟩ := List.pairwise_cons.1 h
    unfold Fields.insert
    split
    · rename_i hlt
      apply List.pairwise_cons.2
      refine ⟨fun p hp => ?_, ih hfs⟩
      rcases mem_of_mem_insert hp with rfl | hp
      · exact hlt
      · exact hk p hp
    · rename_i hnlt
      split
      · rename_i heq
        exact List.pairwise_cons.2 ⟨fun p hp => heq ▸ hk p hp, hfs⟩
      · rename_i hne
        have hlt : key < k := lt_of_not_lt_of_ne hnlt hne
        apply List.pairwise_cons.2
        refine ⟨fun p hp => ?_, h⟩
        rcases List.mem_cons.1 hp with rfl | hp
        · exact hlt
        · exact String.lt_trans hlt (hk p hp)

/-- Erasing keeps fields ascending. -/
theorem Ascending.erase {fs : Fields α} (h : Ascending fs) (key : String) :
  Ascending (fs.erase key)
  := List.Pairwise.filter _ h

/-- An inserted value is found under its name. -/
theorem get?_insert_self (fs : Fields α) (key : String) (value : α) :
  (fs.insert key value).get? key = some value
  := by
  induction fs with
  | nil => simp [insert, get?]
  | cons q fs ih =>
    obtain ⟨k, v⟩ := q
    unfold insert
    split
    · rename_i hlt
      have : k ≠ key := fun h => String.lt_irrefl key (h ▸ hlt)
      simpa [get?, this] using ih
    · split <;> simp [get?]

/-- Inserting a value leaves the other names alone. -/
theorem get?_insert_of_ne (fs : Fields α) {key other : String} (value : α)
    (h : other ≠ key) :
  (fs.insert key value).get? other = fs.get? other
  := by
  induction fs with
  | nil => simp [insert, get?, h.symm]
  | cons q fs ih =>
    obtain ⟨k, v⟩ := q
    unfold insert
    split
    · simp only [get?]
      split
      · rfl
      · exact ih
    · split
      · rename_i heq
        simp [get?, heq, h.symm]
      · simp [get?, h.symm]

/-- An erased name is not found. -/
theorem get?_erase_self (fs : Fields α) (key : String) :
  (fs.erase key).get? key = none
  := by
  induction fs with
  | nil => rfl
  | cons q fs ih =>
    obtain ⟨k, v⟩ := q
    by_cases hk : k = key
    · subst hk
      simpa [erase] using ih
    · have : erase ((k, v) :: fs) key = (k, v) :: erase fs key := by simp [erase, hk]
      rw [this]
      simpa [get?, hk] using ih

/-- Erasing a name leaves the others alone. -/
theorem get?_erase_of_ne (fs : Fields α) {key other : String} (h : other ≠ key) :
  (fs.erase key).get? other = fs.get? other
  := by
  induction fs with
  | nil => rfl
  | cons q fs ih =>
    obtain ⟨k, v⟩ := q
    by_cases hk : k = key
    · subst hk
      have : erase ((k, v) :: fs) k = erase fs k := by simp [erase]
      rw [this, ih]
      simp [get?, h.symm]
    · have : erase ((k, v) :: fs) key = (k, v) :: erase fs key := by simp [erase, hk]
      rw [this]
      simp only [get?]
      split
      · rfl
      · exact ih

end Fields

/-- A finite map from names to values. -/
structure Table (α : Type) where
  entries : Fields α
  ascending : entries.Ascending

namespace Table

variable {α : Type}

/-- The map without names. -/
def empty : Table α := ⟨[], List.Pairwise.nil⟩

instance : Inhabited (Table α) := ⟨empty⟩

/-- The value under a name. -/
def get? (t : Table α) (key : String) : Option α := t.entries.get? key

/-- The map with `value` under `key`. -/
def insert (t : Table α) (key : String) (value : α) : Table α :=
  ⟨t.entries.insert key value, t.ascending.insert key value⟩

/-- The map without `key`. -/
def erase (t : Table α) (key : String) : Table α :=
  ⟨t.entries.erase key, t.ascending.erase key⟩

@[simp]
theorem get?_empty (key : String) :
  (empty : Table α).get? key = none
  := rfl

/-- An inserted value is found under its name, and the other names keep theirs. -/
theorem get?_insert (t : Table α) (key : String) (value : α) (other : String) :
  (t.insert key value).get? other = if other = key then some value else t.get? other
  := by
  by_cases h : other = key
  · subst h
    rw [if_pos rfl]
    apply Fields.get?_insert_self
  · rw [if_neg h]
    apply Fields.get?_insert_of_ne _ _ h

/-- An erased name has no value, and the other names keep theirs. -/
theorem get?_erase (t : Table α) (key : String) (other : String) :
  (t.erase key).get? other = if other = key then none else t.get? other
  := by
  by_cases h : other = key
  · subst h
    rw [if_pos rfl]
    apply Fields.get?_erase_self
  · rw [if_neg h]
    apply Fields.get?_erase_of_ne _ h

end Table

end OrderDesk
