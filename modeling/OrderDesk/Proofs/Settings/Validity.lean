import OrderDesk.Settings

/-!
# Valid configurations

A retry configuration is valid if it allows an attempt, its factor is a finite number above zero and
its jitter is a share; a rate limit, if it admits calls at all and its period has a length.
Settings describe a valid retry configuration, and possibly a rate limit, if all their numbers of
seconds are spans: these are the settings that are accepted, and what they describe is read off
them.
-/

namespace OrderDesk

/-- A finite double is above zero exactly if it is not at most zero. -/
theorem Binary64.not_le_zero_iff {x : Binary64} (finite : x.isFinite = true) :
  x.le 0 = false ↔ (0 : Binary64).lt x = true
  := by
  have hzero : (0 : Binary64).position? = some 0 := by decide +kernel
  cases x with
  | finite negative m =>
    rw [le, lt, hzero]
    dsimp only [position?]
    rw [decide_eq_false_iff_not, decide_eq_true_iff, Int.not_le]
  | nan => cases finite
  | infinite => cases finite

namespace RetryConfig

/-- At least one attempt, a factor above zero, and a jitter between nothing and everything. -/
structure Valid (c : RetryConfig) : Prop where
  attempts : 1 ≤ c.maxAttempts
  finite : c.backoff.isFinite = true
  positive : (0 : Binary64).lt c.backoff = true
  share : (0 : Binary64).le c.jitter = true ∧ c.jitter.le 1 = true

/-- A configuration has no fault exactly if it is valid. -/
theorem fault?_eq_none_iff {c : RetryConfig} :
  c.fault? = none ↔ c.Valid
  := by
  have hattempts : ¬c.maxAttempts = 0 ↔ 1 ≤ c.maxAttempts := by
    rw [← UInt32.toNat_inj, UInt32.le_iff_toNat_le]
    change ¬c.maxAttempts.toNat = 0 ↔ 1 ≤ c.maxAttempts.toNat
    omega
  have hbackoff : ¬(¬c.backoff.isFinite = true ∨ c.backoff.le 0 = true)
      ↔ c.backoff.isFinite = true ∧ (0 : Binary64).lt c.backoff = true := by
    rw [not_or, Classical.not_not]
    apply and_congr_right
    intro finite
    rw [Bool.not_eq_true, Binary64.not_le_zero_iff finite]
  rw [fault?]
  constructor
  · intro h
    split at h
    · cases h
    next some_attempt =>
      split at h
      · cases h
      next grows =>
        split at h
        · cases h
        next share =>
          obtain ⟨finite, positive⟩ := hbackoff.1 grows
          exact ⟨hattempts.1 some_attempt, finite, positive, Classical.not_not.1 share⟩
  · rintro ⟨some_attempt, finite, positive, share⟩
    rw [if_neg (hattempts.2 some_attempt), if_neg (hbackoff.2 ⟨finite, positive⟩),
      if_neg (Classical.not_not.2 share)]

end RetryConfig

namespace RateLimit

/-- Some calls, and a period with a length. -/
structure Valid (l : RateLimit) : Prop where
  calls : 1 ≤ l.maxCalls
  period : 0 < l.period.nanoseconds

theorem isValid_iff {l : RateLimit} :
  l.isValid = true ↔ l.Valid
  := by
  rw [isValid, Bool.and_eq_true, bne_iff_ne, Bool.not_eq_true', Duration.isZero,
    beq_eq_false_iff_ne, Nat.ne_zero_iff_zero_lt, Nat.ne_zero_iff_zero_lt]
  constructor
  · rintro ⟨calls, period⟩
    exact ⟨calls, period⟩
  · rintro ⟨calls, period⟩
    exact ⟨calls, period⟩

end RateLimit

namespace Settings

variable {s : Settings} {config : RetryConfig} {limit : Option RateLimit}

/-- The rate limit that settings describe, if they have one. -/
inductive DescribesLimit : Option RateLimitSettings → Option RateLimit → Prop where
  | missing : DescribesLimit none none
  | given {l : RateLimitSettings} {period : Duration}
      (span : Duration.ofSeconds? l.periodSeconds = some period) :
      DescribesLimit (some l) (some ⟨l.maxCalls, period⟩)

/-- Settings describe a valid retry configuration and possibly a rate limit: every number of
seconds in them is a span, and the rest is taken as it is. -/
structure Describes (s : Settings) (config : RetryConfig) (limit : Option RateLimit) : Prop where
  maxAttempts : config.maxAttempts = s.retry.maxAttempts
  baseDelay : Duration.ofSeconds? s.retry.baseDelaySeconds = some config.baseDelay
  backoff : config.backoff = s.retry.backoff
  jitter : config.jitter = s.retry.jitter
  maxDelay : Duration.ofSeconds? s.retry.maxDelaySeconds = some config.maxDelay
  valid : config.Valid
  limit : DescribesLimit s.rateLimit limit

theorem seconds_eq_ok {field : String} {value : Binary64} {d : Duration} :
  seconds field value = .ok d ↔ Duration.ofSeconds? value = some d
  := by
  rw [seconds]
  rcases Duration.ofSeconds? value with _ | d'
  · exact ⟨nofun, nofun⟩
  · exact ⟨fun h => congrArg some (Except.ok.inj h),
      fun h => congrArg Except.ok (Option.some.inj h)⟩

theorem rateLimit?_eq_ok :
  s.rateLimit? = .ok limit ↔ DescribesLimit s.rateLimit limit
  := by
  rw [rateLimit?]
  rcases s.rateLimit with _ | l
  · constructor
    · rintro ⟨⟩
      exact .missing
    · rintro ⟨⟩
      rfl
  · constructor
    · intro h
      dsimp only at h
      rcases hspan : seconds "rate_limit.period_secs" l.periodSeconds with e | period
      · rw [hspan] at h
        cases h
      · rw [hspan] at h
        cases h
        exact .given (seconds_eq_ok.1 hspan)
    · rintro (_ | span)
      dsimp only
      rw [seconds_eq_ok.2 span]
      rfl

theorem retryConfig_eq_ok :
  s.retryConfig = .ok config
    ↔ ∃ baseDelay maxDelay,
      Duration.ofSeconds? s.retry.baseDelaySeconds = some baseDelay
      ∧ Duration.ofSeconds? s.retry.maxDelaySeconds = some maxDelay
      ∧ config = { maxAttempts := s.retry.maxAttempts, baseDelay, backoff := s.retry.backoff,
                   jitter := s.retry.jitter, maxDelay }
      ∧ config.Valid
  := by
  constructor
  · intro h
    rw [retryConfig] at h
    rcases hbase : seconds "retry.base_delay_secs" s.retry.baseDelaySeconds with e | baseDelay
    · rw [hbase] at h
      cases h
    · rcases hmax : seconds "retry.max_delay_secs" s.retry.maxDelaySeconds with e | maxDelay
      · rw [hbase, hmax] at h
        cases h
      · simp only [hbase, hmax, bind, Except.bind] at h
        split at h
        · cases h
        next faultless =>
          cases h
          exact ⟨baseDelay, maxDelay, seconds_eq_ok.1 hbase, seconds_eq_ok.1 hmax, rfl,
            RetryConfig.fault?_eq_none_iff.1 faultless⟩
  · rintro ⟨baseDelay, maxDelay, hbase, hmax, rfl, valid⟩
    rw [retryConfig, seconds_eq_ok.2 hbase, seconds_eq_ok.2 hmax]
    simp only [bind, Except.bind, RetryConfig.fault?_eq_none_iff.2 valid]
    rfl

/-- Settings describe what is read off them. -/
theorem describes_iff :
  s.Describes config limit ↔ s.retryConfig = .ok config ∧ s.rateLimit? = .ok limit
  := by
  rw [retryConfig_eq_ok, rateLimit?_eq_ok]
  constructor
  · intro h
    refine ⟨⟨config.baseDelay, config.maxDelay, h.baseDelay, h.maxDelay, ?_, h.valid⟩, h.limit⟩
    rw [← h.maxAttempts, ← h.backoff, ← h.jitter]
  · rintro ⟨⟨baseDelay, maxDelay, hbase, hmax, rfl, valid⟩, limit⟩
    exact ⟨rfl, hbase, rfl, rfl, hmax, valid, limit⟩

/-- The first fault of settings: that of the retries, or else that of the rate limit. -/
def fault? (s : Settings) : Option ConfigError :=
  match s.retryConfig, s.rateLimit? with
  | .error e, _ => some e
  | .ok _, .error e => some e
  | .ok _, .ok _ => none

/-- Settings without a fault are those that describe something. -/
theorem fault?_eq_none_iff :
  s.fault? = none ↔ ∃ config limit, s.Describes config limit
  := by
  simp only [describes_iff, fault?]
  rcases s.retryConfig with e | config
  · simp
  · rcases s.rateLimit? with e | limit
    · simp
    · simp

theorem fault?_eq_some_iff {e : ConfigError} :
  s.fault? = some e
    ↔ s.retryConfig = .error e ∨ (∃ config, s.retryConfig = .ok config) ∧ s.rateLimit? = .error e
  := by
  rw [fault?]
  rcases s.retryConfig with e' | config
  · simp
  · rcases s.rateLimit? with e' | limit
    · simp
    · simp

end Settings

end OrderDesk
