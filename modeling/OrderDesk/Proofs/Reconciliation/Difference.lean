import Mathlib.Data.List.Sort
import OrderDesk.Proofs.Text.Bytes
import OrderDesk.Reconciliation

/-!
# What a comparison tells

The ids that a comparison reports as missing are the known ones that are not listed, and those that
it reports as untracked are the listed ones that are not known, in whatever order and however often
the two sides give them.  Both are reported in ascending order, each id once, so that the comparison
is all that can be said of the two sets: `comparisons_are_sorted_differences`.
-/

namespace OrderDesk

variable {s t : String} {ts known listed : List String}

theorem mem_insertText :
  t ∈ insertText s ts ↔ t = s ∨ t ∈ ts
  := by
  induction ts with
  | nil => simp [insertText]
  | cons u us ih =>
    rw [insertText]
    split
    · apply List.mem_cons
    · split
      next heq => simp [heq]
      next hne =>
        rw [List.mem_cons, ih, List.mem_cons]
        apply or_left_comm

/-- Putting texts in order loses none and adds none. -/
theorem mem_distinctTexts :
  t ∈ distinctTexts ts ↔ t ∈ ts
  := by
  induction ts with
  | nil => exact Iff.rfl
  | cons u us ih =>
    rw [distinctTexts, List.foldr_cons, mem_insertText, List.mem_cons, ← ih]
    exact Iff.rfl

/-- A text put in its place leaves the others in order. -/
theorem pairwise_insertText (h : ts.Pairwise (· < ·)) (s : String) :
  (insertText s ts).Pairwise (· < ·)
  := by
  induction ts with
  | nil => exact List.pairwise_singleton _ s
  | cons u us ih =>
    obtain ⟨hu, hus⟩ := List.pairwise_cons.1 h
    rw [insertText]
    split
    next hlt =>
      apply List.pairwise_cons.2
      refine ⟨?_, h⟩
      intro t hmem
      obtain rfl | hmem := List.mem_cons.1 hmem
      · exact hlt
      · exact String.lt_trans hlt (hu t hmem)
    next hnlt =>
      split
      · exact h
      next hne =>
        apply List.pairwise_cons.2
        refine ⟨?_, ih hus⟩
        intro t hmem
        obtain rfl | hmem := mem_insertText.1 hmem
        · exact Fields.lt_of_not_lt_of_ne hnlt hne
        · exact hu t hmem

/-- The distinct texts of a list ascend. -/
theorem pairwise_distinctTexts (ts : List String) :
  (distinctTexts ts).Pairwise (· < ·)
  := by
  induction ts with
  | nil => exact .nil
  | cons u us ih => apply pairwise_insertText ih

namespace Reconciliation

/-- The missing ids are those that are known and not listed. -/
theorem mem_missingRemote_diff :
  t ∈ (diff known listed).missingRemote ↔ t ∈ known ∧ t ∉ listed
  := by
  rw [diff, List.mem_filter, mem_distinctTexts, Bool.not_eq_true', List.contains_eq_mem,
    decide_eq_false_iff_not]

/-- The untracked ids are those that are listed and not known. -/
theorem mem_untrackedRemote_diff :
  t ∈ (diff known listed).untrackedRemote ↔ t ∈ listed ∧ t ∉ known
  := by
  rw [diff, List.mem_filter, mem_distinctTexts, Bool.not_eq_true', List.contains_eq_mem,
    decide_eq_false_iff_not]

/-- A comparison of what is known with what is listed: each of the two differences, in ascending
order. -/
structure Compares (r : Reconciliation) (known listed : String → Prop) : Prop where
  missing_ascending : r.missingRemote.Pairwise (· < ·)
  mem_missing (s : String) : s ∈ r.missingRemote ↔ known s ∧ ¬listed s
  untracked_ascending : r.untrackedRemote.Pairwise (· < ·)
  mem_untracked (s : String) : s ∈ r.untrackedRemote ↔ listed s ∧ ¬known s

theorem compares_diff (known listed : List String) :
  (diff known listed).Compares (· ∈ known) (· ∈ listed)
  where
  missing_ascending := (pairwise_distinctTexts known).filter _
  mem_missing _ := mem_missingRemote_diff
  untracked_ascending := (pairwise_distinctTexts listed).filter _
  mem_untracked _ := mem_untrackedRemote_diff

/-- There is one comparison of what is known with what is listed. -/
theorem Compares.eq {r r' : Reconciliation} {known listed : String → Prop}
    (h : r.Compares known listed) (h' : r'.Compares known listed) :
  r = r'
  := by
  have missing : r.missingRemote = r'.missingRemote := by
    apply h.missing_ascending.eq_of_mem_iff h'.missing_ascending
    intro s
    rw [h.mem_missing, h'.mem_missing]
  have untracked : r.untrackedRemote = r'.untrackedRemote := by
    apply h.untracked_ascending.eq_of_mem_iff h'.untracked_ascending
    intro s
    rw [h.mem_untracked, h'.mem_untracked]
  cases r
  cases r'
  rw [mk.injEq]
  exact ⟨missing, untracked⟩

/-- No id is on both sides of a comparison. -/
theorem Compares.disjoint {r : Reconciliation} {known listed : String → Prop}
    (h : r.Compares known listed) :
  r.missingRemote.Disjoint r.untrackedRemote
  := by
  intro s missing untracked
  exact ((h.mem_missing s).1 missing).2 ((h.mem_untracked s).1 untracked).1

/-- A comparison is clean if what is known is what is listed. -/
theorem Compares.isClean_iff {r : Reconciliation} {known listed : String → Prop}
    (h : r.Compares known listed) :
  r.isClean = true ↔ ∀ s, known s ↔ listed s
  := by
  rw [isClean, Bool.and_eq_true, List.isEmpty_iff, List.isEmpty_iff,
    List.eq_nil_iff_forall_not_mem, List.eq_nil_iff_forall_not_mem]
  constructor
  · rintro ⟨missing, untracked⟩ s
    constructor
    · intro hknown
      by_contra hlisted
      exact missing s ((h.mem_missing s).2 ⟨hknown, hlisted⟩)
    · intro hlisted
      by_contra hknown
      exact untracked s ((h.mem_untracked s).2 ⟨hlisted, hknown⟩)
  · intro same
    constructor
    · intro s missing
      obtain ⟨hknown, hlisted⟩ := (h.mem_missing s).1 missing
      exact hlisted ((same s).1 hknown)
    · intro s untracked
      obtain ⟨hlisted, hknown⟩ := (h.mem_untracked s).1 untracked
      exact hknown ((same s).2 hlisted)

/-- The comparison of two lists depends only on what is in them. -/
theorem diff_congr {known' listed' : List String} (hknown : ∀ s, s ∈ known' ↔ s ∈ known)
    (hlisted : ∀ s, s ∈ listed' ↔ s ∈ listed) :
  diff known' listed' = diff known listed
  := by
  have h := compares_diff known' listed'
  simp only [hknown, hlisted] at h
  apply h.eq (compares_diff known listed)

/-- A comparison is the two differences in order.  Of two lists of texts, in whatever order and
however often they have them, the comparison has on one side the texts of the first list that are
not in the second one, on the other side those of the second one that are not in the first, each of
them once and in ascending order of their bytes.  So no text is on both sides; lists with the same
texts have the same comparison; comparing the other way round exchanges the sides; and the
comparison is clean exactly if the two lists have the same texts. -/
theorem comparisons_are_sorted_differences (known listed : List String) :
  let r : Reconciliation := diff known listed
  r.missingRemote.Pairwise (fun s t => Bytes.utf8 s < Bytes.utf8 t)
  ∧ (∀ s, s ∈ r.missingRemote ↔ s ∈ known ∧ s ∉ listed)
  ∧ r.untrackedRemote.Pairwise (fun s t => Bytes.utf8 s < Bytes.utf8 t)
  ∧ (∀ s, s ∈ r.untrackedRemote ↔ s ∈ listed ∧ s ∉ known)
  ∧ r.missingRemote.Disjoint r.untrackedRemote
  ∧ (∀ known' listed', (∀ s, s ∈ known' ↔ s ∈ known) → (∀ s, s ∈ listed' ↔ s ∈ listed) →
      diff known' listed' = r)
  ∧ diff listed known = ⟨r.untrackedRemote, r.missingRemote⟩
  ∧ (r.isClean = true ↔ ∀ s, s ∈ known ↔ s ∈ listed)
  := by
  intro r
  have compares : r.Compares (· ∈ known) (· ∈ listed) := compares_diff known listed
  refine ⟨?_, compares.mem_missing, ?_, compares.mem_untracked, compares.disjoint, ?_, rfl,
    compares.isClean_iff⟩
  · apply compares.missing_ascending.imp Bytes.utf8_lt_iff.2
  · apply compares.untracked_ascending.imp Bytes.utf8_lt_iff.2
  · intro known' listed' hknown hlisted
    apply diff_congr hknown hlisted

/-- Ids with other letters and of other lengths: `é` has two bytes, and comes after `z`. -/
example :
  diff ["é", "b", "z", "b", "ab"] ["c", "b", ""] = ⟨["ab", "z", "é"], ["", "c"]⟩
  := by decide

end Reconciliation

end OrderDesk
