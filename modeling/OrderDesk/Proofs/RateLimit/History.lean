import Mathlib.Data.List.TakeWhile
import Mathlib.Tactic.Use
import OrderDesk.RateLimit.Window

/-!
# Sliding windows and whole histories

A limiter keeps only some of the readings at which it admitted calls: it forgets them late, when
it is next asked, and from the front.  It answers all the same as if it kept every one of them for
good and counted those within the last period: what it has forgotten is too old to be counted at
any later reading.  Readings count from the earliest instant that the clock can express, so that
a clock may start anywhere, also within a period of that instant.
-/

namespace OrderDesk

/-- What is asked of a limiter, at a reading of the clock. -/
inductive LimiterCall where
  | acquire (now : Nat)
  | remaining (now : Nat)
deriving DecidableEq

/-- What a limiter answers: whether a permit was granted, or how many are left. -/
inductive LimiterAnswer where
  | granted (permit : Bool)
  | left (permits : Nat)
deriving DecidableEq

namespace LimiterCall

/-- The reading of the clock at a call. -/
def reading : LimiterCall → Nat
  | .acquire now => now
  | .remaining now => now

/-- The reading at which a call was admitted, if the answer grants it a permit. -/
def admission? : LimiterCall → LimiterAnswer → Option Nat
  | .acquire now, .granted true => some now
  | _, _ => none

/-- The readings of the clock never decrease. -/
def Chronological (calls : List LimiterCall) : Prop :=
  (calls.map reading).Pairwise (· ≤ ·)

instance (calls : List LimiterCall) : Decidable (Chronological calls) :=
  inferInstanceAs (Decidable ((calls.map reading).Pairwise (· ≤ ·)))

end LimiterCall

namespace RateLimit

/-- Whether a call admitted at the reading `s` still counts at the reading `t`. -/
def counts (limit : RateLimit) (t s : Nat) : Bool := decide (t < s + limit.period.nanoseconds)

/-- Whether the reading `s` lies in the period that ends with the reading `t`. -/
def within (limit : RateLimit) (t s : Nat) : Bool :=
  decide (t < s + limit.period.nanoseconds ∧ s ≤ t)

/-- The answer that the whole history of admissions calls for. -/
def answer (limit : RateLimit) (history : List Nat) : LimiterCall → LimiterAnswer
  | .acquire now => .granted (decide (history.countP (limit.counts now) < limit.maxCalls))
  | .remaining now => .left (limit.maxCalls - history.countP (limit.counts now))

/-- The answers to a sequence of calls, each of which has the whole history before it. -/
def answers (limit : RateLimit) (history : List Nat) : List LimiterCall → List LimiterAnswer
  | [] => []
  | call :: calls =>
    let answer := limit.answer history call
    answer :: limit.answers (history ++ (call.admission? answer).toList) calls

/-- A call that counts at a reading has counted at every earlier one. -/
theorem counts_of_le {limit : RateLimit} {t u s : Nat} (hle : t ≤ u) (h : limit.counts u s = true) :
  limit.counts t s = true
  := by
  simp only [counts, decide_eq_true_eq] at h ⊢
  omega

end RateLimit

namespace RateLimiter

open LimiterCall (Chronological)

variable {r : RateLimiter} {history : List Nat} {now t : Nat}

/-- The limiter after a call, and its answer. -/
def ask (r : RateLimiter) : LimiterCall → RateLimiter × LimiterAnswer
  | .acquire now => ((r.acquire now).1, .granted (r.acquire now).2)
  | .remaining now => ((r.remaining now).1, .left (r.remaining now).2)

/-- The limiter after a sequence of calls. -/
def after (r : RateLimiter) (calls : List LimiterCall) : RateLimiter :=
  calls.foldl (fun r call => (r.ask call).1) r

/-- The answers to a sequence of calls. -/
def answers (r : RateLimiter) : List LimiterCall → List LimiterAnswer
  | [] => []
  | call :: calls => (r.ask call).2 :: (r.ask call).1.answers calls

/-- The readings at which the calls of a sequence were admitted, oldest first. -/
def admissions (r : RateLimiter) : List LimiterCall → List Nat
  | [] => []
  | call :: calls =>
    (call.admission? (r.ask call).2).toList ++ (r.ask call).1.admissions calls

/-! ### Sequences of calls -/

theorem after_append (r : RateLimiter) (calls calls' : List LimiterCall) :
  r.after (calls ++ calls') = (r.after calls).after calls'
  := List.foldl_append

theorem admissions_append (r : RateLimiter) (calls calls' : List LimiterCall) :
  r.admissions (calls ++ calls') = r.admissions calls ++ (r.after calls).admissions calls'
  := by
  induction calls generalizing r with
  | nil => rfl
  | cons call calls ih =>
    rw [List.cons_append, admissions, admissions, ih, List.append_assoc]
    rfl

/-! ### The limit of a limiter -/

@[simp]
theorem limit_evict (r : RateLimiter) (t : Nat) :
  (r.evict t).limit = r.limit
  := by
  rw [evict]
  split
  · rfl
  · rfl

@[simp]
theorem limit_ask (r : RateLimiter) (call : LimiterCall) :
  (r.ask call).1.limit = r.limit
  := by
  cases call with
  | acquire now =>
    rw [ask, acquire]
    dsimp only
    split
    · apply limit_evict
    · apply limit_evict
  | remaining now => apply limit_evict

/-- A positive number of calls in a period that has a length makes a limiter, which has admitted
nothing yet. -/
theorem exists_ofLimit? {limit : RateLimit} (calls : 0 < limit.maxCalls)
    (period : 0 < limit.period.nanoseconds) :
  ∃ r, ofLimit? limit = some r ∧ r.limit = limit ∧ r.admitted = []
  := by
  have valid : limit.isValid = true := by
    simp only [RateLimit.isValid, Duration.isZero, Bool.and_eq_true, bne_iff_ne, ne_eq,
      Bool.not_eq_true', beq_eq_false_iff_ne]
    omega
  use ⟨limit, valid, []⟩
  rw [ofLimit?, dif_pos valid]
  exact ⟨rfl, rfl, rfl⟩

/-! ### Forgetting -/

/-- Dropping the small numbers at the front of an ascending list drops all of them. -/
theorem dropWhile_eq_filter {readings : List Nat} (ordered : readings.Pairwise (· ≤ ·))
    (cutoff : Nat) :
  readings.dropWhile (fun s => decide (s ≤ cutoff))
    = readings.filter (fun s => decide (cutoff < s))
  := by
  induction readings with
  | nil => rfl
  | cons s readings ih =>
    obtain ⟨hs, hreadings⟩ := List.pairwise_cons.1 ordered
    by_cases hle : s ≤ cutoff
    · rw [List.dropWhile_cons_of_pos (by simpa using hle),
        List.filter_cons_of_neg (by simpa using hle)]
      apply ih hreadings
    · rw [List.dropWhile_cons_of_neg (by simpa using hle)]
      symm
      apply List.filter_eq_self.2
      intro u hu
      have hsu : s ≤ u := by
        obtain rfl | hu := List.mem_cons.1 hu
        · apply Nat.le_refl
        · apply hs u hu
      simp only [decide_eq_true_eq]
      omega

/-- A limiter keeps the readings that still count, also while nothing can be old enough. -/
theorem admitted_evict (ordered : r.admitted.Pairwise (· ≤ ·)) (t : Nat) :
  (r.evict t).admitted = r.admitted.filter (r.limit.counts t)
  := by
  rw [evict, cutoff?]
  split
  next h =>
    have hlt : ¬r.limit.period.nanoseconds ≤ t := by
      intro hle
      rw [if_pos hle] at h
      cases h
    symm
    apply List.filter_eq_self.2
    intro s hs
    simp only [RateLimit.counts, decide_eq_true_eq]
    omega
  next cutoff h =>
    obtain ⟨hle, rfl⟩ : r.limit.period.nanoseconds ≤ t
        ∧ t - r.limit.period.nanoseconds = cutoff := by
      simpa using h
    dsimp only
    rw [dropWhile_eq_filter ordered]
    apply List.filter_congr
    intro s hs
    simp only [RateLimit.counts, decide_eq_decide]
    omega

/-- The limiter keeps those readings of a history that count, at any reading from now on. -/
structure Remembers (r : RateLimiter) (history : List Nat) (now : Nat) : Prop where
  ordered : r.admitted.Pairwise (· ≤ ·)
  past {s : Nat} (h : s ∈ r.admitted) : s ≤ now
  counted {t : Nat} (h : now ≤ t) :
    r.admitted.filter (r.limit.counts t) = history.filter (r.limit.counts t)

namespace Remembers

/-- A limiter with its whole history in front of it. -/
theorem fresh (h : r.admitted = []) :
  r.Remembers [] 0
  := by
  constructor
  · rw [h]
    apply List.Pairwise.nil
  · intro s hs
    rw [h] at hs
    cases hs
  · intro t ht
    rw [h]

/-- Forgetting what does not count makes no difference later. -/
theorem evict (h : r.Remembers history now) (hle : now ≤ t) :
  (r.evict t).Remembers history t
  := by
  have hadmitted := admitted_evict h.ordered t
  constructor
  · rw [hadmitted]
    apply h.ordered.filter
  · intro s hs
    rw [hadmitted] at hs
    apply Nat.le_trans (h.past (List.mem_filter.1 hs).1) hle
  · intro u hu
    rw [limit_evict, hadmitted, List.filter_filter, ← h.counted (Nat.le_trans hle hu)]
    apply List.filter_congr
    intro s hs
    rw [Bool.and_eq_left_iff_imp]
    apply RateLimit.counts_of_le hu

/-- As many readings are kept as count in the history. -/
theorem length_evict (h : r.Remembers history now) (hle : now ≤ t) :
  (r.evict t).admitted.length = history.countP (r.limit.counts t)
  := by
  rw [admitted_evict h.ordered t, h.counted hle, ← List.countP_eq_length_filter]

/-- A call that is admitted enters the history. -/
theorem append (h : r.Remembers history now) :
  { r with admitted := r.admitted ++ [now] }.Remembers (history ++ [now]) now
  := by
  constructor
  · apply List.pairwise_append.2
    refine ⟨h.ordered, List.pairwise_singleton _ _, ?_⟩
    intro s hs u hu
    rw [List.mem_singleton.1 hu]
    apply h.past hs
  · intro s hs
    obtain hs | hs := List.mem_append.1 hs
    · apply h.past hs
    · apply Nat.le_of_eq (List.mem_singleton.1 hs)
  · intro t ht
    rw [List.filter_append, List.filter_append, h.counted ht]

theorem granted_acquire (h : r.Remembers history now) (hle : now ≤ t) :
  (r.acquire t).2 = decide (history.countP (r.limit.counts t) < r.limit.maxCalls)
  := by
  rw [RateLimiter.acquire, ← h.length_evict hle]
  simp only [limit_evict]
  split
  next hlt => exact (decide_eq_true hlt).symm
  next hlt => exact (decide_eq_false hlt).symm

theorem left_remaining (h : r.Remembers history now) (hle : now ≤ t) :
  (r.remaining t).2 = r.limit.maxCalls - history.countP (r.limit.counts t)
  := by
  rw [RateLimiter.remaining, ← h.length_evict hle, limit_evict]

/-- A limiter that was asked for a permit goes on remembering, with the call if it was admitted. -/
theorem acquire (h : r.Remembers history now) (hle : now ≤ t) :
  (r.acquire t).1.Remembers
    (history ++ (LimiterCall.acquire t |>.admission? (.granted (r.acquire t).2)).toList) t
  := by
  rw [RateLimiter.acquire]
  split
  · exact (h.evict hle).append
  · simpa [LimiterCall.admission?] using h.evict hle

/-- A limiter answers as the whole history calls for. -/
theorem answer_ask (h : r.Remembers history now) {call : LimiterCall}
    (hle : now ≤ call.reading) :
  (r.ask call).2 = r.limit.answer history call
  := by
  cases call with
  | acquire t =>
    have hle : now ≤ t := hle
    rw [RateLimiter.ask, RateLimit.answer, h.granted_acquire hle]
  | remaining t =>
    have hle : now ≤ t := hle
    rw [RateLimiter.ask, RateLimit.answer, h.left_remaining hle]

theorem ask (h : r.Remembers history now) {call : LimiterCall} (hle : now ≤ call.reading) :
  (r.ask call).1.Remembers (history ++ (call.admission? (r.ask call).2).toList) call.reading
  := by
  cases call with
  | acquire t => apply h.acquire hle
  | remaining t =>
    simp only [LimiterCall.admission?, Option.toList_none, List.append_nil]
    apply h.evict hle

/-- The answers to later calls depend on the history alone. -/
theorem answers_eq (h : r.Remembers history now) {calls : List LimiterCall}
    (chronological : Chronological calls) (later : ∀ call ∈ calls, now ≤ call.reading) :
  r.answers calls = r.limit.answers history calls
  := by
  induction calls generalizing r history now with
  | nil => rfl
  | cons call calls ih =>
    obtain ⟨hreadings, hcalls⟩ := List.pairwise_cons.1 chronological
    have hle : now ≤ call.reading := later call List.mem_cons_self
    have hlater : ∀ call' ∈ calls, call.reading ≤ call'.reading := by
      intro call' hmem
      apply hreadings call'.reading (List.mem_map_of_mem hmem)
    rw [answers, RateLimit.answers, ih (h.ask hle) hcalls hlater, h.answer_ask hle, limit_ask]

theorem of_le (h : r.Remembers history now) (hle : now ≤ t) :
  r.Remembers history t
  := by
  constructor
  · exact h.ordered
  · intro s hs
    apply Nat.le_trans (h.past hs) hle
  · intro u hu
    apply h.counted (Nat.le_trans hle hu)

/-- After a sequence of calls the limiter remembers the admissions among them. -/
theorem after (h : r.Remembers history now) {calls : List LimiterCall}
    (chronological : Chronological calls) (later : ∀ call ∈ calls, now ≤ call.reading)
    (hle : now ≤ t) (past : ∀ call ∈ calls, call.reading ≤ t) :
  (r.after calls).Remembers (history ++ r.admissions calls) t
  := by
  induction calls generalizing r history now with
  | nil =>
    rw [admissions, List.append_nil]
    apply h.of_le hle
  | cons call calls ih =>
    obtain ⟨hreadings, hcalls⟩ := List.pairwise_cons.1 chronological
    have hlater : ∀ call' ∈ calls, call.reading ≤ call'.reading := by
      intro call' hmem
      apply hreadings call'.reading (List.mem_map_of_mem hmem)
    rw [admissions, ← List.append_assoc]
    apply ih (h.ask (later call List.mem_cons_self)) hcalls hlater
    · apply past call List.mem_cons_self
    · intro call' hmem
      apply past call' (List.mem_cons_of_mem call hmem)

end Remembers

@[simp]
theorem limit_after (r : RateLimiter) (calls : List LimiterCall) :
  (r.after calls).limit = r.limit
  := by
  induction calls generalizing r with
  | nil => rfl
  | cons call calls ih => exact (ih _).trans (limit_ask r call)

/-! ### Windows -/

/-- No period contains more admissions than the limit allows calls. -/
def Bounded (limit : RateLimit) (history : List Nat) : Prop :=
  ∀ t, history.countP (limit.within t) ≤ limit.maxCalls

/-- A call may be admitted when fewer than the allowed calls count: a period that contains it
contains no others but those. -/
theorem Bounded.append {limit : RateLimit} (h : Bounded limit history)
    (room : history.countP (limit.counts now) < limit.maxCalls) :
  Bounded limit (history ++ [now])
  := by
  intro t
  rw [List.countP_append, List.countP_singleton]
  split
  next hwithin =>
    simp only [RateLimit.within, decide_eq_true_eq] at hwithin
    have hle : history.countP (limit.within t) ≤ history.countP (limit.counts now) := by
      apply List.countP_mono_left
      intro s hs hst
      simp only [RateLimit.within, RateLimit.counts, decide_eq_true_eq] at hst ⊢
      omega
    omega
  next => apply h t

theorem Bounded.ask (h : Bounded r.limit history) (remembers : r.Remembers history now)
    {call : LimiterCall} (hle : now ≤ call.reading) :
  Bounded r.limit (history ++ (call.admission? (r.ask call).2).toList)
  := by
  rw [remembers.answer_ask hle]
  cases call with
  | acquire t =>
    rw [RateLimit.answer]
    by_cases room : history.countP (r.limit.counts t) < r.limit.maxCalls
    · rw [decide_eq_true room]
      apply h.append room
    · rw [decide_eq_false room]
      simpa [LimiterCall.admission?] using h
  | remaining t => simpa [RateLimit.answer, LimiterCall.admission?] using h

theorem Bounded.after (h : Bounded r.limit history) (remembers : r.Remembers history now)
    {calls : List LimiterCall} (chronological : Chronological calls)
    (later : ∀ call ∈ calls, now ≤ call.reading) :
  Bounded r.limit (history ++ r.admissions calls)
  := by
  induction calls generalizing r history now with
  | nil =>
    rw [admissions, List.append_nil]
    exact h
  | cons call calls ih =>
    obtain ⟨hreadings, hcalls⟩ := List.pairwise_cons.1 chronological
    have hle : now ≤ call.reading := later call List.mem_cons_self
    have hnext := h.ask remembers hle
    rw [← limit_ask r call] at hnext
    have hrest := ih hnext (remembers.ask hle) hcalls (by
      intro call' hmem
      apply hreadings call'.reading (List.mem_map_of_mem hmem))
    rw [limit_ask] at hrest
    rw [admissions, ← List.append_assoc]
    exact hrest

/-! ### Waiting out the period -/

theorem maxCalls_pos (r : RateLimiter) :
  0 < r.limit.maxCalls
  := by
  have valid := r.valid
  simp only [RateLimit.isValid, Bool.and_eq_true, bne_iff_ne] at valid
  apply Nat.pos_of_ne_zero valid.1

theorem period_pos (r : RateLimiter) :
  0 < r.limit.period.nanoseconds
  := by
  have valid := r.valid
  simp only [RateLimit.isValid, Duration.isZero, Bool.and_eq_true, Bool.not_eq_true',
    beq_eq_false_iff_ne] at valid
  apply Nat.pos_of_ne_zero valid.2

/-- Forgetting adds no reading. -/
theorem mem_admitted_of_evict {s : Nat} (h : s ∈ (r.evict t).admitted) :
  s ∈ r.admitted
  := by
  rw [evict] at h
  split at h
  · exact h
  · apply (List.dropWhile_sublist _).subset h

/-- A limiter that is asked for a permit comes to keep the reading of the clock at most, and only if
it grants the permit. -/
theorem mem_admitted_of_acquire {s : Nat} (h : s ∈ (r.acquire t).1.admitted) :
  s ∈ r.admitted ∨ (r.acquire t).2 = true ∧ s = t
  := by
  rw [acquire] at h ⊢
  split at h
  next room =>
    rw [if_pos room]
    obtain h | h := List.mem_append.1 h
    · exact .inl (mem_admitted_of_evict h)
    · exact .inr ⟨rfl, List.mem_singleton.1 h⟩
  next => exact .inl (mem_admitted_of_evict h)

/-- Once all admissions are a whole period old the limiter forgets them all. -/
theorem admitted_evict_of_past
    (past : ∀ s ∈ r.admitted, s + r.limit.period.nanoseconds ≤ t) :
  (r.evict t).admitted = []
  := by
  rw [evict, cutoff?]
  by_cases hle : r.limit.period.nanoseconds ≤ t
  · rw [if_pos hle]
    apply List.dropWhile_eq_nil_iff.2
    intro s hs
    have hpast := past s hs
    apply decide_eq_true
    omega
  · rw [if_neg hle]
    apply List.eq_nil_iff_forall_not_mem.2
    intro s hs
    have hpast := past s hs
    omega

/-- Once all admissions are a whole period old a permit is granted. -/
theorem acquire_of_past (past : ∀ s ∈ r.admitted, s + r.limit.period.nanoseconds ≤ t) :
  (r.acquire t).2 = true
  := by
  have room : (r.evict t).admitted.length < (r.evict t).limit.maxCalls := by
    rw [admitted_evict_of_past past]
    apply maxCalls_pos
  rw [acquire, if_pos room]

/-- A limiter answers as if it counted its whole history.  A positive number of calls in a period
that has a length makes a limiter.  After any calls at readings that never decrease, and at any
reading from then on, it grants a permit exactly if fewer than the allowed number of all calls
that it has ever admitted still count, and the permits left are the others.  A call that is not
admitted makes no difference to the answers to any later calls.  No period contains more
admissions than the limit allows calls. -/
theorem limiter_counts_its_whole_history (limit : RateLimit) (calls : 0 < limit.maxCalls)
    (period : 0 < limit.period.nanoseconds) :
  ∃ r, ofLimit? limit = some r
  ∧ ∀ before, Chronological before →
    let now := r.after before
    let history := r.admissions before
    (∀ t, (∀ call ∈ before, call.reading ≤ t) →
      ((now.acquire t).2 = true
        ↔ history.countP (fun s => t < s + limit.period.nanoseconds) < limit.maxCalls)
      ∧ (now.remaining t).2
        = limit.maxCalls - history.countP (fun s => t < s + limit.period.nanoseconds))
    ∧ (∀ call later, Chronological (before ++ call :: later) →
        call.admission? (now.ask call).2 = none →
        (now.ask call).1.answers later = now.answers later)
    ∧ ∀ t, history.countP (fun s => t < s + limit.period.nanoseconds ∧ s ≤ t) ≤ limit.maxCalls
  := by
  obtain ⟨r, hr, rfl, hfresh⟩ := exists_ofLimit? calls period
  use r, hr
  intro before chronological now history
  have hstart : r.Remembers [] 0 := .fresh hfresh
  have hbegun : ∀ call ∈ before, 0 ≤ call.reading := fun call _ => Nat.zero_le _
  have hlimit : now.limit = r.limit := limit_after r before
  have hnow {t : Nat} (past : ∀ call ∈ before, call.reading ≤ t) : now.Remembers history t :=
    hstart.after chronological hbegun (Nat.zero_le t) past
  refine ⟨?_, ?_, ?_⟩
  · intro t past
    have hgranted := (hnow past).granted_acquire (Nat.le_refl t)
    have hleft := (hnow past).left_remaining (Nat.le_refl t)
    rw [hlimit] at hgranted hleft
    refine ⟨?_, hleft⟩
    rw [hgranted, decide_eq_true_eq]
    rfl
  · intro call later hall refused
    rw [Chronological, List.map_append, List.map_cons, List.pairwise_append] at hall
    obtain ⟨-, hrest, hcross⟩ := hall
    obtain ⟨hreadings, hlater⟩ := List.pairwise_cons.1 hrest
    have past : ∀ call' ∈ before, call'.reading ≤ call.reading := by
      intro call' hmem
      apply hcross _ (List.mem_map_of_mem hmem) _ List.mem_cons_self
    have coming : ∀ call' ∈ later, call.reading ≤ call'.reading := by
      intro call' hmem
      apply hreadings _ (List.mem_map_of_mem hmem)
    have hasked := (hnow past).ask (Nat.le_refl _)
    rw [refused, Option.toList_none, List.append_nil] at hasked
    rw [(hnow past).answers_eq hlater coming, hasked.answers_eq hlater coming, limit_ask]
  · have hbounded : Bounded r.limit ([] ++ r.admissions before) := by
      apply Bounded.after _ hstart chronological hbegun
      intro t
      apply Nat.zero_le
    exact hbounded

/-- Two calls per ten nanoseconds, by a clock that has run for three: while both of the latest
admissions count a call is refused, and exactly a period after the first of them one is granted. -/
theorem limiter_counts_to_the_end_of_the_period :
  let limit : RateLimit := ⟨2, ⟨10, by decide⟩⟩
  let before : List LimiterCall := [.acquire 3, .acquire 7, .remaining 12, .acquire 12, .acquire 13]
  0 < limit.maxCalls ∧ 0 < limit.period.nanoseconds ∧ Chronological before
  ∧ ∃ r, ofLimit? limit = some r ∧ r.admissions before = [3, 7, 13]
    ∧ ((r.after before).acquire 16).2 = false ∧ ((r.after before).acquire 17).2 = true
  := by
  intro limit before
  have chronological : Chronological before := by decide
  obtain ⟨r, hr, h⟩ := limiter_counts_its_whole_history limit (by decide) (by decide)
  obtain ⟨hanswers, -, -⟩ := h before chronological
  have hadmissions : r.admissions before = [3, 7, 13] := by
    rw [ofLimit?, dif_pos (by decide)] at hr
    rw [← Option.some.inj hr]
    decide
  rw [hadmissions] at hanswers
  refine ⟨by decide, by decide, chronological, r, hr, hadmissions, ?_, ?_⟩
  · rw [Bool.eq_false_iff, ne_eq, (hanswers 16 (by decide)).1]
    decide
  · rw [(hanswers 17 (by decide)).1]
    decide

end RateLimiter

end OrderDesk
