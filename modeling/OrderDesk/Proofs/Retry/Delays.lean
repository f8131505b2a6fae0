import OrderDesk.Proofs.Duration.Seconds
import OrderDesk.Retry.Config

/-!
# Pauses that vanish

A pause grows by a factor from one retry to the next up to the longest pause.  With a factor of at
least one it should vanish only if it begins or ends with nothing.  But the factor may outgrow all
doubles, and its product with nothing is then no number, for which the longest pause stands in.
And the longest pause may be so close to the longest span there is that its number of seconds is no
span any more, and then there is no pause at all.
-/

namespace OrderDesk

open Binary64 Duration

namespace RetryConfig

variable {c : RetryConfig} {k : Nat}

/-- By how much the pause before retry `k` has grown. -/
def growth (c : RetryConfig) (k : Nat) : Binary64 := c.backoff ^ min k 0x7fffffff

/-- The pause before retry `k` in seconds as if none were too long. -/
def unbounded (c : RetryConfig) (k : Nat) : Binary64 := c.baseDelay.toSeconds * c.growth k

/-- The pause before retry `k` in seconds. -/
def bounded (c : RetryConfig) (k : Nat) : Binary64 :=
  if (c.unbounded k).isFinite then (c.unbounded k).minimum c.maxDelay.toSeconds
  else c.maxDelay.toSeconds

theorem baseDelayFor_eq (c : RetryConfig) (k : Nat) :
  c.baseDelayFor k = (ofSeconds? (c.bounded k)).getD .zero
  := rfl

/-- A factor of at least one only ever makes the pause grow. -/
theorem atLeast_growth (grows : (1 : Binary64).le c.backoff = true) (k : Nat) :
  (c.growth k).AtLeast rankOfOne
  := by
  rw [one_eq, finite_le_iff (by decide)] at grows
  exact grows.pow _

/-- Without a bound the pause is empty if it begins so and the growth is finite; it is not finite,
or it is noticeable. -/
theorem unbounded_cases (grows : (1 : Binary64).le c.backoff = true) (k : Nat) :
  (c.baseDelay = .zero ∧ (c.growth k).isFinite = true ∧ c.unbounded k = .zero)
    ∨ (¬(c.baseDelay = .zero ∧ (c.growth k).isFinite = true)
      ∧ (c.unbounded k = .nan ∨ c.unbounded k = .infinite false))
    ∨ (c.baseDelay ≠ .zero
      ∧ ∃ m, c.unbounded k = .finite false m ∧ rankNoticeable ≤ m.rank)
  := by
  obtain ⟨b, hb, hempty, hnoticeable, -⟩ := c.baseDelay.toSeconds_eq
  have hgrowth := c.atLeast_growth grows k
  rw [unbounded]
  by_cases hzero : c.baseDelay = .zero
  · have hseconds : Duration.zero.toSeconds = Binary64.zero := by decide +kernel
    rw [hzero, hseconds]
    obtain hinf | ⟨n, hn, -⟩ := hgrowth
    · rw [hinf]
      right
      left
      exact ⟨nofun, .inl rfl⟩
    · rw [hn, zero_mul_finite]
      exact .inl ⟨rfl, rfl, rfl⟩
  · have hbase : c.baseDelay.toSeconds.AtLeast rankNoticeable :=
      .inr ⟨b, hb, hnoticeable.resolve_left (mt hempty.1 hzero)⟩
    right
    obtain hinf | hfinite := hbase.mul hgrowth (by decide)
    · exact .inl ⟨fun h => hzero h.1, .inr hinf⟩
    · exact .inr ⟨hzero, hfinite⟩

theorem lt_tooLong_eq_false_iff {m : Magnitude} :
  (Binary64.finite false m).lt (.ofNat 0x10000000000000000) = false ↔ rankTooLong ≤ m.rank
  := by
  have htooLong : Binary64.ofNat 0x10000000000000000 = .finite false ⟨rankTooLong, by decide⟩ := by
    decide +kernel
  rw [htooLong, finite_lt_finite, decide_eq_false_iff_not, Nat.not_lt]

/-- The longest pause stands in for pauses that are not finite, and vanishes if it is empty or
rounded to a number of seconds that is no span. -/
theorem baseDelayFor_of_not_finite (h : (c.unbounded k).isFinite = false) :
  c.baseDelayFor k = .zero
    ↔ c.maxDelay = .zero ∨ 0x10000000000000000 - 1024 ≤ c.maxDelay.seconds
  := by
  obtain ⟨l, hl, hempty, hnoticeable, htooLong⟩ := c.maxDelay.toSeconds_eq
  rw [baseDelayFor_eq, bounded, h, if_neg nofun, hl, getD_ofSeconds?_eq_zero_iff hnoticeable,
    hempty, htooLong]

/-- A finite pause is cut off at the longest one, and vanishes if either is empty or both are
rounded to a number of seconds that is no span. -/
theorem baseDelayFor_of_finite {m : Magnitude} (h : c.unbounded k = .finite false m)
    (noticeable : m.rank = 0 ∨ rankNoticeable ≤ m.rank) :
  c.baseDelayFor k = .zero
    ↔ m.rank = 0 ∨ c.maxDelay = .zero
      ∨ 0x10000000000000000 - 1024 ≤ c.maxDelay.seconds ∧ rankTooLong ≤ m.rank
  := by
  obtain ⟨l, hl, hempty, hnoticeable, htooLong⟩ := c.maxDelay.toSeconds_eq
  obtain ⟨cut, hcut, hrank⟩ := minimum_finite m l
  have hfinite : (Binary64.finite false m).isFinite = true := rfl
  rw [baseDelayFor_eq, bounded, h, hl, hcut, if_pos hfinite, getD_ofSeconds?_eq_zero_iff (by omega),
    ← hempty, ← htooLong]
  omega

/-- With a factor of at least one a pause vanishes exactly if the longest pause is empty, if the
first pause is and the growth is finite, or if both the pause without a bound and the longest pause
are rounded to a number of seconds that is no span. -/
theorem pauses_vanish_exactly_if_empty_or_out_of_range
    (grows : (1 : Binary64).le c.backoff = true) (k : Nat) :
  c.baseDelayFor k = .zero
    ↔ c.maxDelay = .zero
      ∨ (c.baseDelay = .zero ∧ (c.growth k).isFinite = true)
      ∨ (0x10000000000000000 - 1024 ≤ c.maxDelay.seconds
        ∧ (c.unbounded k).lt (.ofNat 0x10000000000000000) = false)
  := by
  obtain ⟨hbase, hgrowth, hzero⟩ | ⟨hbase, hout⟩ | ⟨hbase, m, hm, hnoticeable⟩ :=
    c.unbounded_cases grows k
  · rw [baseDelayFor_of_finite hzero (.inl rfl)]
    exact iff_of_true (.inl rfl) (.inr (.inl ⟨hbase, hgrowth⟩))
  · obtain ⟨infinite, large⟩ : (c.unbounded k).isFinite = false
        ∧ (c.unbounded k).lt (.ofNat 0x10000000000000000) = false := by
      obtain hnan | hinf := hout
      · rw [hnan]
        exact ⟨rfl, rfl⟩
      · rw [hinf]
        exact ⟨rfl, by decide +kernel⟩
    rw [baseDelayFor_of_not_finite infinite]
    simp [hbase, large]
  · rw [baseDelayFor_of_finite hm (.inr hnoticeable), hm, lt_tooLong_eq_false_iff]
    simp [ne_zero_of_noticeable hnoticeable, hbase]

/-- The standard pause is not lost before the fortieth retry either. -/
theorem standard_pause_does_not_vanish :
  (1 : Binary64).le standard.backoff = true ∧ standard.baseDelayFor 40 ≠ .zero
  := by
  have grows : (1 : Binary64).le standard.backoff = true := by decide +kernel
  refine ⟨grows, ?_⟩
  rw [ne_eq, pauses_vanish_exactly_if_empty_or_out_of_range grows]
  decide +kernel

/-- The standard configuration, but beginning without a pause. -/
def eager : RetryConfig := { standard with baseDelay := .zero }

/-- The standard configuration, but with pauses of any length. -/
def patient : RetryConfig := { standard with maxDelay := .longest }

/-- Both are valid, but there is a pause of five seconds before retry 1024 of the one that begins
without a pause, and none before retry 65 of the one whose pauses have doubled all the time. -/
theorem pauses_appear_and_vanish :
  (eager.fault? = none ∧ (1 : Binary64).le eager.backoff = true
    ∧ eager.baseDelay = .zero ∧ (eager.baseDelayFor 1024).nanoseconds = 5000000000)
  ∧ (patient.fault? = none ∧ (1 : Binary64).le patient.backoff = true
    ∧ patient.baseDelay ≠ .zero ∧ patient.maxDelay ≠ .zero ∧ patient.baseDelayFor 65 = .zero)
  := by decide +kernel

end RetryConfig

end OrderDesk
