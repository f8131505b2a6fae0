import Mathlib.Data.List.Perm.Basic
import OrderDesk.Proofs.Cache.Permanence
import OrderDesk.Proofs.Fingerprint.Branches

/-!
# Fingerprints identify requests

A tree can be rebuilt from its branches in whatever order they are listed: those that share
their first step are the branches of the tree below that step.  Hence two objects have the same
fingerprint only if they are the same tree, and the empty fingerprint is that of the empty
object alone.
-/

namespace OrderDesk

namespace Fingerprint

variable {x y : Json} {xs ys : List Json} {f g : String × Json} {fs gs : List (String × Json)}
  {b : Branch}

/-! ### First steps -/

theorem branches_ne_nil : (x : Json) → branches x ≠ []
  | .null => nofun
  | .bool _ => nofun
  | .num _ => nofun
  | .str _ => nofun
  | .arr [] => nofun
  | .arr (x :: _) => by
    apply List.append_ne_nil_of_left_ne_nil
    rw [Ne, List.map_eq_nil_iff]
    apply branches_ne_nil x
  | .obj [] => nofun
  | .obj ((_, x) :: _) => by
    apply List.append_ne_nil_of_left_ne_nil
    rw [Ne, List.map_eq_nil_iff]
    apply branches_ne_nil x

/-- A branch through the items from a position on begins with that position or a later one. -/
theorem head?_of_mem_itemBranches {index : Nat} (h : b ∈ itemBranches index xs) :
  ∃ i, index ≤ i ∧ b.1.head? = some (.item i)
  := by
  induction xs generalizing index with
  | nil => cases h
  | cons x xs ih =>
    rw [itemBranches, List.mem_append, List.mem_map] at h
    obtain ⟨b, -, rfl⟩ | h := h
    · exact ⟨index, Nat.le_refl index, rfl⟩
    · obtain ⟨i, hi, hhead⟩ := ih h
      exact ⟨i, Nat.le_of_succ_le hi, hhead⟩

/-- A branch through the fields of an object begins with the name of one. -/
theorem head?_of_mem_fieldBranches (h : b ∈ fieldBranches fs) :
  ∃ f ∈ fs, b.1.head? = some (.named f.1)
  := by
  induction fs with
  | nil => cases h
  | cons f fs ih =>
    rw [fieldBranches, List.mem_append, List.mem_map] at h
    obtain ⟨b, -, rfl⟩ | h := h
    · exact ⟨f, List.mem_cons_self, rfl⟩
    · obtain ⟨f', hf', hhead⟩ := ih h
      exact ⟨f', List.mem_cons_of_mem f hf', hhead⟩

/-- A branch leads through the first item of an array. -/
theorem exists_mem_itemBranches (index : Nat) (x : Json) (xs : List Json) :
  ∃ b ∈ itemBranches index (x :: xs), b.1.head? = some (.item index)
  := by
  obtain ⟨b, bs, heq⟩ := List.exists_cons_of_ne_nil (branches_ne_nil x)
  refine ⟨under (.item index) b, ?_, rfl⟩
  rw [itemBranches, heq]
  apply List.mem_cons_self

/-- A branch leads through the first field of an object. -/
theorem exists_mem_fieldBranches (f : String × Json) (fs : List (String × Json)) :
  ∃ b ∈ fieldBranches (f :: fs), b.1.head? = some (.named f.1)
  := by
  obtain ⟨b, bs, heq⟩ := List.exists_cons_of_ne_nil (branches_ne_nil f.2)
  refine ⟨under (.named f.1) b, ?_, rfl⟩
  rw [fieldBranches, heq]
  apply List.mem_cons_self

/-- The later items of an array are reached by other first steps. -/
theorem head?_ne_item {index : Nat} (h : b ∈ itemBranches (index + 1) xs) :
  b.1.head? ≠ some (.item index)
  := by
  obtain ⟨i, hi, hhead⟩ := head?_of_mem_itemBranches h
  rw [hhead]
  intro heq
  cases heq
  exact Nat.not_succ_le_self index hi

/-- The later fields of an object are reached by other first steps. -/
theorem head?_ne_named {key : String} (ascending : Fields.Ascending ((key, x) :: fs))
    (h : b ∈ fieldBranches fs) :
  b.1.head? ≠ some (.named key)
  := by
  obtain ⟨f', hf', hhead⟩ := head?_of_mem_fieldBranches h
  rw [hhead]
  intro heq
  have hlt := (List.pairwise_cons.1 ascending).1 f' hf'
  rw [PathStep.named.inj (Option.some.inj heq)] at hlt
  exact String.lt_irrefl key hlt

/-! ### Branches in any order -/

theorem under_injective (s : PathStep) :
  Function.Injective (under s)
  := by
  rintro ⟨p, a⟩ ⟨q, b⟩ h
  simp only [under, Prod.mk.injEq, List.cons.injEq, true_and] at h
  rw [h.1, h.2]

/-- The branches of a tree are found below those that share their first step. -/
theorem perm_of_under {s : PathStep} {A B A' B' : List Branch}
    (hA : ∀ b ∈ A', b.1.head? ≠ some s) (hB : ∀ b ∈ B', b.1.head? ≠ some s)
    (h : (A.map (under s) ++ A').Perm (B.map (under s) ++ B')) :
  A.Perm B ∧ A'.Perm B'
  := by
  let begins (b : Branch) : Bool := b.1.head? = some s
  have hsplit {L L' : List Branch} (hL : ∀ b ∈ L', b.1.head? ≠ some s) :
      (L.map (under s) ++ L').filter begins = L.map (under s)
      ∧ (L.map (under s) ++ L').filter (!begins ·) = L' := by
    have hunder : ∀ b ∈ L.map (under s), begins b = true := by
      intro b hb
      obtain ⟨b, -, rfl⟩ := List.mem_map.1 hb
      apply decide_eq_true rfl
    have hother : ∀ b ∈ L', begins b = false := fun b hb => decide_eq_false (hL b hb)
    constructor
    · rw [List.filter_append, List.filter_eq_self.2 hunder, List.filter_eq_nil_iff.2,
        List.append_nil]
      intro b hb
      rw [hother b hb]
      apply Bool.false_ne_true
    · rw [List.filter_append, List.filter_eq_nil_iff.2, List.filter_eq_self.2, List.nil_append]
      · intro b hb
        rw [hother b hb]
        rfl
      · intro b hb
        rw [hunder b hb]
        apply Bool.false_ne_true
  constructor
  · have hperm := h.filter begins
    rw [(hsplit hA).1, (hsplit hB).1] at hperm
    apply (List.map_perm_map_iff (under_injective s)).1 hperm
  · have hperm := h.filter (!begins ·)
    rw [(hsplit hA).2, (hsplit hB).2] at hperm
    exact hperm

/-! ### Trees from their branches -/

/-- A tree is a leaf, an array with items or an object with fields. -/
theorem leaf_or_container (x : Json) :
  (∃ a : Leaf, a.json = x ∧ branches x = [([], a)])
  ∨ (∃ y ys, x = .arr (y :: ys))
  ∨ ∃ f fs, x = .obj (f :: fs)
  := by
  rcases x with _ | b | n | s | (_ | ⟨y, ys⟩) | (_ | ⟨f, fs⟩)
  · exact .inl ⟨.null, rfl, rfl⟩
  · exact .inl ⟨.bool b, rfl, rfl⟩
  · exact .inl ⟨.num n, rfl, rfl⟩
  · exact .inl ⟨.str s, rfl, rfl⟩
  · exact .inl ⟨.emptyArray, rfl, rfl⟩
  · exact .inr (.inl ⟨y, ys, rfl⟩)
  · exact .inl ⟨.emptyObject, rfl, rfl⟩
  · exact .inr (.inr ⟨f, fs, rfl⟩)

/-- A tree with a branch that makes no step is a leaf. -/
theorem eq_of_perm_leaf {a : Leaf} (h : List.Perm [([], a)] (branches y)) :
  a.json = y
  := by
  have hmem : ([], a) ∈ branches y := h.subset List.mem_cons_self
  obtain ⟨a', rfl, hbranches⟩ | ⟨y, ys, rfl⟩ | ⟨f, fs, rfl⟩ := leaf_or_container y
  · rw [hbranches, List.mem_singleton] at hmem
    cases hmem
    rfl
  · obtain ⟨i, -, hhead⟩ := head?_of_mem_itemBranches hmem
    cases hhead
  · obtain ⟨f, -, hhead⟩ := head?_of_mem_fieldBranches hmem
    cases hhead

/-- A tree with the branches of an array with items is one. -/
theorem exists_items_of_perm (h : (itemBranches 0 (x :: xs)).Perm (branches y)) :
  ∃ y' ys, y = .arr (y' :: ys)
  := by
  obtain ⟨b, hb, hitem⟩ := exists_mem_itemBranches 0 x xs
  have hmem : b ∈ branches y := h.subset hb
  obtain ⟨a, rfl, hbranches⟩ | ⟨y, ys, rfl⟩ | ⟨f, fs, rfl⟩ := leaf_or_container y
  · rw [hbranches, List.mem_singleton] at hmem
    rw [hmem] at hitem
    cases hitem
  · exact ⟨y, ys, rfl⟩
  · obtain ⟨f, -, hnamed⟩ := head?_of_mem_fieldBranches hmem
    cases hitem.symm.trans hnamed

/-- A tree with the branches of an object with fields is one. -/
theorem exists_fields_of_perm (h : (fieldBranches (f :: fs)).Perm (branches y)) :
  ∃ g gs, y = .obj (g :: gs)
  := by
  obtain ⟨b, hb, hnamed⟩ := exists_mem_fieldBranches f fs
  have hmem : b ∈ branches y := h.subset hb
  obtain ⟨a, rfl, hbranches⟩ | ⟨y, ys, rfl⟩ | ⟨g, gs, rfl⟩ := leaf_or_container y
  · rw [hbranches, List.mem_singleton] at hmem
    rw [hmem] at hnamed
    cases hnamed
  · obtain ⟨i, -, hitem⟩ := head?_of_mem_itemBranches hmem
    cases hnamed.symm.trans hitem
  · exact ⟨g, gs, rfl⟩

/-- The first name of an object is not smaller than that of another with the same branches. -/
theorem not_lt_of_perm (ascending : Fields.Ascending (g :: gs))
    (h : (fieldBranches (f :: fs)).Perm (fieldBranches (g :: gs))) :
  ¬f.1 < g.1
  := by
  obtain ⟨b, hb, hnamed⟩ := exists_mem_fieldBranches f fs
  obtain ⟨g', hg', hnamed'⟩ := head?_of_mem_fieldBranches (h.subset hb)
  rw [PathStep.named.inj (Option.some.inj (hnamed.symm.trans hnamed'))]
  obtain rfl | hgs := List.mem_cons.1 hg'
  · apply String.lt_irrefl
  · apply String.lt_asymm
    apply (List.pairwise_cons.1 ascending).1 g' hgs

mutual

/-- An ordered tree is determined by its branches in any order. -/
theorem eq_of_branches_perm : (x y : Json) → x.Ordered → y.Ordered →
    (branches x).Perm (branches y) → x = y
  | .null, _, _, _, h => eq_of_perm_leaf h
  | .bool _, _, _, _, h => eq_of_perm_leaf h
  | .num _, _, _, _, h => eq_of_perm_leaf h
  | .str _, _, _, _, h => eq_of_perm_leaf h
  | .arr [], _, _, _, h => eq_of_perm_leaf h
  | .arr (x :: xs), y, hx, hy, h => by
    obtain ⟨y, ys, rfl⟩ := exists_items_of_perm h
    rw [eq_of_itemBranches_perm 0 (x :: xs) (y :: ys) hx hy h]
  | .obj [], _, _, _, h => eq_of_perm_leaf h
  | .obj (f :: fs), y, hx, hy, h => by
    obtain ⟨g, gs, rfl⟩ := exists_fields_of_perm h
    rw [eq_of_fieldBranches_perm (f :: fs) (g :: gs) hx.1 hx.2 hy.1 hy.2 h]

theorem eq_of_itemBranches_perm (index : Nat) : (xs ys : List Json) → Json.AllOrdered xs →
    Json.AllOrdered ys → (itemBranches index xs).Perm (itemBranches index ys) → xs = ys
  | [], [], _, _, _ => rfl
  | [], y :: ys, _, _, h => by
    obtain ⟨b, hb, -⟩ := exists_mem_itemBranches index y ys
    cases h.symm.subset hb
  | x :: xs, [], _, _, h => by
    obtain ⟨b, hb, -⟩ := exists_mem_itemBranches index x xs
    cases h.subset hb
  | x :: xs, y :: ys, hx, hy, h => by
    obtain ⟨hhead, htail⟩ :=
      perm_of_under (fun _ => head?_ne_item) (fun _ => head?_ne_item) h
    rw [eq_of_branches_perm x y hx.1 hy.1 hhead,
      eq_of_itemBranches_perm (index + 1) xs ys hx.2 hy.2 htail]

theorem eq_of_fieldBranches_perm : (fs gs : List (String × Json)) → Fields.Ascending fs →
    Json.FieldsOrdered fs → Fields.Ascending gs → Json.FieldsOrdered gs →
    (fieldBranches fs).Perm (fieldBranches gs) → fs = gs
  | [], [], _, _, _, _, _ => rfl
  | [], g :: gs, _, _, _, _, h => by
    obtain ⟨b, hb, -⟩ := exists_mem_fieldBranches g gs
    cases h.symm.subset hb
  | f :: fs, [], _, _, _, _, h => by
    obtain ⟨b, hb, -⟩ := exists_mem_fieldBranches f fs
    cases h.subset hb
  | (k, x) :: fs, (l, y) :: gs, hfs, hx, hgs, hy, h => by
    obtain rfl : k = l := by
      by_contra hne
      exact not_lt_of_perm hfs h.symm (Fields.lt_of_not_lt_of_ne (not_lt_of_perm hgs h) hne)
    obtain ⟨hhead, htail⟩ :=
      perm_of_under (fun _ => head?_ne_named hfs) (fun _ => head?_ne_named hgs) h
    rw [eq_of_branches_perm x y hx.1 hy.1 hhead,
      eq_of_fieldBranches_perm fs gs (List.pairwise_cons.1 hfs).2 hx.2
        (List.pairwise_cons.1 hgs).2 hy.2 htail]

end

/-! ### Objects -/

/-- An entry with the point that the text of a branch begins with. -/
def dotted (e : String × String) : List Char × List Char := ('.' :: e.1.toList, e.2.toList)

/-- The entries of an object are its branches. -/
theorem map_dotted_entries (fs : List (String × Json)) :
  ((fieldLeaves [] fs).map fun e => (String.ofList e.1, String.ofList e.2)).map dotted
    = (fieldBranches fs).map (entry [])
  := by
  rw [fieldLeaves_nil, List.map_map, List.map_map]
  apply List.map_congr_left
  intro b hb
  obtain ⟨f, -, hnamed⟩ := head?_of_mem_fieldBranches hb
  obtain ⟨_ | ⟨s, path⟩, a⟩ := b
  · cases hnamed
  · cases hnamed
    simp [dotted, rootEntry, entry, pathChars, PathStep.chars]

theorem entry_injective :
  Function.Injective (entry [])
  := by
  rintro ⟨p, a⟩ ⟨q, b⟩ h
  obtain ⟨hpath, htext⟩ := Prod.mk.inj h
  obtain rfl := pathChars_inj.1 hpath
  obtain rfl := Leaf.chars_inj.1 htext
  rfl

/-- Objects with the same fingerprint are the same. -/
theorem of_inj {p q : Payload} :
  of p = of q ↔ p = q
  := by
  constructor
  · intro h
    have hentries := congrArg entries h
    have hperm := (List.mergeSort_perm _ entryLe).symm.trans
      ((List.Perm.of_eq hentries).trans (List.mergeSort_perm _ entryLe))
    have hdotted := hperm.map dotted
    rw [map_dotted_entries, map_dotted_entries, List.map_perm_map_iff entry_injective] at hdotted
    apply Payload.ext
    apply eq_of_fieldBranches_perm _ _ p.ordered.1 p.ordered.2 q.ordered.1 q.ordered.2 hdotted
  · rintro rfl
    rfl

theorem of_empty :
  of .empty = .empty
  := by
  rw [of]
  apply congrArg Fingerprint.mk List.mergeSort_nil

/-- Only the empty object has the empty fingerprint. -/
theorem of_eq_empty {p : Payload} :
  of p = .empty ↔ p = .empty
  := by
  rw [← of_empty, of_inj]

end Fingerprint

namespace SharedCache

variable {s : SharedCache} {t : Ticket} {id : ClientId} {request : Payload}

/-- An id seeded with a response keeps the empty fingerprint. -/
theorem Sound.slot?_of_seeded (h : s.Sound) (free : s.cache.slot? id = none) (response : Payload)
    (later : List CacheEvent) :
  ∃ response', ((s.step (.update id response)).steps later).cache.slot? id
    = some (.resolved ⟨.empty, response'⟩)
  := by
  have seeded := h.step_of_enters (.seeded response free)
  apply (h.step _).steps_of_resolved seeded

end SharedCache

namespace Fingerprint

/-- Fingerprints identify requests.  Two objects have the same fingerprint exactly if they are the
same tree, where numbers with the same text are the same number, and only the empty object has
the empty fingerprint.  Hence, once a response has been put under an id without a slot, whatever
happens later, a call that asks for the id with a request that has any field fails at once with
a conflict on the id and leaves the cache as it was. -/
theorem fingerprints_identify_requests :
  (∀ p q : Payload, of p = of q ↔ p = q)
  ∧ (∀ m n : JsonNumber, m.chars = n.chars ↔ m = n)
  ∧ (∀ p : Payload, of p = .empty ↔ p = .empty)
  ∧ ∀ before id response later,
    let s := SharedCache.empty.steps before
    let now := (s.step (.update id response)).steps later
    s.cache.slot? id = none → ∀ e t request, now.Asks t id request e → request ≠ .empty →
      (now.step e).cache = now.cache
      ∧ (now.step e).call? t
        = some ⟨id, request, .returned (.error (.fatal (.orderConflict id)))⟩
  := by
  refine ⟨fun _ _ => of_inj, fun _ _ => JsonNumber.chars_inj, fun _ => of_eq_empty, ?_⟩
  intro before id response later s now free e t request asks hrequest
  have h : s.Sound := SharedCache.sound_steps before
  obtain ⟨response', slot⟩ := h.slot?_of_seeded free response later
  have hne : Fingerprint.empty ≠ of request := fun heq => hrequest (of_eq_empty.1 heq.symm)
  rw [SharedCache.step_of_asks slot asks]
  constructor
  · rfl
  · rw [SharedCache.call?_setCall, if_pos rfl, CacheEntry.answer, if_neg hne]

end Fingerprint

end OrderDesk
