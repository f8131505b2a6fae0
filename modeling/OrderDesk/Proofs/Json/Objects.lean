import Mathlib.Data.List.Nodup
import OrderDesk.Json.Basic

/-!
# Objects as finite maps

An object is determined by the values under its names, and each operation on objects is described
by what it does to them.  Of several values that are put under one name after the other the last
one stays; if the names differ, the order is of no matter.
-/

namespace OrderDesk

namespace Fields

variable {α : Type} {fs gs : Fields α}

theorem Ascending.nodup (h : Ascending fs) :
  fs.Nodup
  := by
  apply List.Pairwise.imp _ h
  rintro f g hlt rfl
  apply String.lt_irrefl _ hlt

/-- Ascending fields with the same values under all names are the same. -/
theorem Ascending.ext (hf : Ascending fs) (hg : Ascending gs)
    (h : ∀ key, fs.get? key = gs.get? key) :
  fs = gs
  := by
  have perm : fs.Perm gs := by
    apply (List.perm_ext_iff_of_nodup hf.nodup hg.nodup).2
    rintro ⟨key, value⟩
    rw [hf.mem_iff, hg.mem_iff, h]
  apply perm.eq_of_pairwise _ hf hg
  intro f g _ _ hlt hgt
  exact absurd hgt (String.lt_asymm hlt)

end Fields

namespace Value

theorem obj_inj {p q : Payload} :
  obj p = obj q ↔ p = q
  := by
  constructor
  · intro h
    apply Payload.ext
    exact Json.obj.inj (congrArg Value.json h)
  · rintro rfl
    rfl

theorem str_inj {s s' : String} :
  str s = str s' ↔ s = s'
  := by
  constructor
  · intro h
    exact Json.str.inj (congrArg Value.json h)
  · rintro rfl
    rfl

@[simp]
theorem asPayload?_obj (p : Payload) :
  (obj p).asPayload? = some p
  := rfl

@[simp]
theorem asText?_str (s : String) :
  (str s).asText? = some s
  := rfl

end Value

namespace Payload

variable {p q : Payload} {key other : String} {value : Value}

/-! ### The values of an object -/

/-- Objects with the same values under all names are the same. -/
theorem ext_get? (h : ∀ key, p.get? key = q.get? key) :
  p = q
  := by
  apply Payload.ext
  apply p.ordered.1.ext q.ordered.1
  intro key
  rw [← get?_map_json, ← get?_map_json, h]

@[simp]
theorem get?_empty (key : String) :
  empty.get? key = none
  := rfl

/-- An inserted value is found under its name, and the other names keep theirs. -/
theorem get?_insert (p : Payload) (key : String) (value : Value) (other : String) :
  (p.insert key value).get? other = if other = key then some value else p.get? other
  := by
  split
  next heq =>
    rw [heq]
    apply get?_insert_self
  next hne => apply get?_insert_of_ne p value hne

theorem contains_eq (p : Payload) (key : String) :
  p.contains key = (p.get? key).isSome
  := by
  rw [contains, ← get?_map_json, Option.isSome_map]

/-- A value inserted where there is none leaves the names that have one alone. -/
theorem get?_insertIfAbsent (p : Payload) (key : String) (value : Value) (other : String) :
  (p.insertIfAbsent key value).get? other
    = if other = key then some ((p.get? key).getD value) else p.get? other
  := by
  rw [insertIfAbsent, contains_eq]
  rcases h : p.get? key with _ | present
  · apply get?_insert
  · change p.get? other = _
    split
    next heq =>
      rw [heq, h]
      rfl
    next hne => rfl

/-- Inserting the value that is there already changes nothing. -/
theorem insert_of_get? (h : p.get? key = some value) :
  p.insert key value = p
  := by
  apply ext_get?
  intro other
  rw [get?_insert]
  split
  next heq => rw [heq, h]
  next hne => rfl

theorem insertIfAbsent_of_get? {present : Value} (h : p.get? key = some present)
    (value : Value) :
  p.insertIfAbsent key value = p
  := by
  rw [insertIfAbsent, contains_eq, h]
  rfl

/-- What has been inserted where there was none is there. -/
theorem insertIfAbsent_insertIfAbsent (p : Payload) (key : String) (value value' : Value) :
  (p.insertIfAbsent key value).insertIfAbsent key value' = p.insertIfAbsent key value
  := by
  apply insertIfAbsent_of_get?
  rw [get?_insertIfAbsent, if_pos rfl]

/-! ### Objects laid over each other -/

/-- The fields of an object are its names with their values. -/
theorem mem_toList :
  (key, value) ∈ p.toList ↔ p.get? key = some value
  := by
  have hget : p.get? key = some value ↔ (key, value.json) ∈ p.fields := by
    rw [p.ordered.1.mem_iff, ← get?_map_json, Option.map_eq_some_iff]
    constructor
    · intro h
      exact ⟨value, h, rfl⟩
    · rintro ⟨present, h, heq⟩
      rw [h, Value.ext heq]
  rw [hget, toList, List.mem_map]
  constructor
  · rintro ⟨⟨f, hf⟩, -, heq⟩
    cases heq
    exact hf
  · intro h
    exact ⟨⟨_, h⟩, List.mem_attach _ _, rfl⟩

/-- The names of an object differ. -/
theorem nodup_names (p : Payload) :
  (p.toList.map Prod.fst).Nodup
  := by
  have hnames : p.toList.map Prod.fst = p.fields.map Prod.fst := by
    rw [toList, List.map_map]
    exact List.attach_map_val (f := Prod.fst)
  rw [hnames]
  apply List.Pairwise.map _ _ p.ordered.1
  rintro f g hlt heq
  rw [heq] at hlt
  apply String.lt_irrefl _ hlt

/-- The names of an object are those that have a value. -/
theorem mem_names :
  key ∈ p.toList.map Prod.fst ↔ p.contains key = true
  := by
  rw [contains_eq, List.mem_map, Option.isSome_iff_exists]
  constructor
  · rintro ⟨⟨_, value⟩, hfield, rfl⟩
    exact ⟨value, mem_toList.1 hfield⟩
  · rintro ⟨value, h⟩
    exact ⟨(key, value), mem_toList.2 h, rfl⟩

/-- Fields put into an object one after the other leave the other names alone. -/
theorem get?_foldl_of_not_mem {fs : List (String × Value)} (p : Payload)
    (h : key ∉ fs.map Prod.fst) :
  (fs.foldl (fun p f => p.insert f.1 f.2) p).get? key = p.get? key
  := by
  induction fs generalizing p with
  | nil => rfl
  | cons f fs ih =>
    rw [List.map_cons, List.mem_cons, not_or] at h
    rw [List.foldl_cons, ih _ h.2, get?_insert, if_neg h.1]

/-- A field put into an object is found there, if no other has its name. -/
theorem get?_foldl_of_mem {fs : List (String × Value)} (p : Payload)
    (hnames : (fs.map Prod.fst).Nodup) (h : (key, value) ∈ fs) :
  (fs.foldl (fun p f => p.insert f.1 f.2) p).get? key = some value
  := by
  induction fs generalizing p with
  | nil => cases h
  | cons f fs ih =>
    obtain ⟨hfirst, hrest⟩ := List.nodup_cons.1 hnames
    rw [List.foldl_cons]
    obtain rfl | h := List.mem_cons.1 h
    · rw [get?_foldl_of_not_mem _ hfirst, get?_insert, if_pos rfl]
    · apply ih _ hrest h

/-- The values of an object laid over another come first. -/
theorem get?_overlaid (p q : Payload) (key : String) :
  (q.toList.foldl (fun p f => p.insert f.1 f.2) p).get? key = (q.get? key).or (p.get? key)
  := by
  rcases h : q.get? key with _ | value
  · apply get?_foldl_of_not_mem
    rw [mem_names, contains_eq, h]
    apply Bool.false_ne_true
  · apply get?_foldl_of_mem _ q.nodup_names (mem_toList.2 h)

end Payload

end OrderDesk
