import OrderDesk.Desk.Builder
import OrderDesk.Proofs.Desk.Frame
import OrderDesk.Proofs.Desk.Permits
import OrderDesk.Proofs.Sequence.Last
import OrderDesk.Proofs.Settings.Validity

/-!
# Desks as they were chosen

Every choice in building a desk gives a retry configuration, a rate limit, both, or a fault.  The
plan that a sequence of choices leads to holds the last retry configuration and the last rate limit,
but the first fault.  A desk is built if there is no fault and what the plan holds is valid, and it
is built from just that.
-/

namespace OrderDesk

namespace RateLimiter

/-- A limiter keeps to the limit that it is made for. -/
theorem eq_of_ofLimit? {limit : RateLimit} {r : RateLimiter} (h : ofLimit? limit = some r) :
  r.limit = limit ∧ r.admitted = []
  := by
  rw [ofLimit?] at h
  split at h
  · cases h
    exact ⟨rfl, rfl⟩
  · cases h

/-- A limit has a limiter exactly if it is valid. -/
theorem exists_ofLimit?_iff {limit : RateLimit} :
  (∃ r, ofLimit? limit = some r) ↔ limit.Valid
  := by
  constructor
  · rintro ⟨r, h⟩
    obtain ⟨rfl, -⟩ := eq_of_ofLimit? h
    exact RateLimit.isValid_iff.1 r.valid
  · intro valid
    obtain ⟨r, h, -⟩ := exists_ofLimit? valid.calls valid.period
    exact ⟨r, h⟩

end RateLimiter

namespace DeskChoice

/-- The retry configuration that a choice gives. -/
def config? : DeskChoice → Option RetryConfig
  | .retry config => some config
  | .rateLimit _ => none
  | .settings s => s.retryConfig.toOption

/-- The rate limit that a choice gives. -/
def limit? : DeskChoice → Option RateLimit
  | .retry _ => none
  | .rateLimit limit => some limit
  | .settings s => s.rateLimit?.toOption.join

/-- The fault of a choice. -/
def fault? : DeskChoice → Option ConfigError
  | .retry _ => none
  | .rateLimit _ => none
  | .settings s => s.fault?

end DeskChoice

open DeskChoice

namespace DeskPlan

/-! ### One choice -/

variable (p : DeskPlan) (c : DeskChoice) (s : Settings)

theorem retry_chooseRetry :
  some (p.chooseRetry s).retry = s.retryConfig.toOption.or (some p.retry)
  := by
  rw [chooseRetry]
  cases s.retryConfig with
  | _ => rfl

theorem limit_chooseRetry :
  (p.chooseRetry s).limit = p.limit
  := by
  rw [chooseRetry]
  cases s.retryConfig with
  | _ => rfl

theorem retry_chooseLimit :
  (p.chooseLimit s).retry = p.retry
  := by
  rw [chooseLimit]
  rcases s.rateLimit? with _ | _ | _
  all_goals rfl

theorem limit_chooseLimit :
  (p.chooseLimit s).limit = s.rateLimit?.toOption.join.or p.limit
  := by
  rw [chooseLimit]
  rcases s.rateLimit? with _ | _ | _
  all_goals rfl

/-- Settings with two faults count with that of their retries. -/
theorem fault_chooseLimit_chooseRetry :
  ((p.chooseRetry s).chooseLimit s).fault = p.fault.or s.fault?
  := by
  rw [chooseLimit, chooseRetry, Settings.fault?]
  rcases s.retryConfig with e | config
  · rcases s.rateLimit? with e' | _ | _
    · exact Option.or_assoc
    · rfl
    · rfl
  · rcases s.rateLimit? with e' | _ | _
    · rfl
    · exact Option.or_none.symm
    · exact Option.or_none.symm

theorem retry_choose :
  some (p.choose c).retry = (config? c).or (some p.retry)
  := by
  cases c with
  | settings s => exact (congrArg some (retry_chooseLimit _ s)).trans (p.retry_chooseRetry s)
  | _ => rfl

theorem limit_choose :
  (p.choose c).limit = (limit? c).or p.limit
  := by
  cases c with
  | settings s =>
    calc ((p.chooseRetry s).chooseLimit s).limit
      _ = s.rateLimit?.toOption.join.or (p.chooseRetry s).limit := limit_chooseLimit _ s
      _ = s.rateLimit?.toOption.join.or p.limit := by rw [limit_chooseRetry]
  | _ => rfl

theorem fault_choose :
  (p.choose c).fault = p.fault.or (fault? c)
  := by
  cases c with
  | settings s => exact p.fault_chooseLimit_chooseRetry s
  | _ => exact Option.or_none.symm

/-! ### Sequences of choices -/

variable (choices : List DeskChoice)

theorem retry_foldl_choose :
  (choices.foldl choose p).retry = (lastGiven? config? choices).getD p.retry
  := by
  have h := foldl_of_written (fun p : DeskPlan => some p.retry) retry_choose p choices
  rw [Option.or_some] at h
  exact Option.some.inj h

theorem limit_foldl_choose :
  (choices.foldl choose p).limit = (lastGiven? limit? choices).or p.limit
  := foldl_of_written limit limit_choose p choices

/-- The plan holds the first fault. -/
theorem fault_foldl_choose :
  (choices.foldl choose p).fault = p.fault.or (choices.findSome? fault?)
  := by
  induction choices generalizing p with
  | nil => exact Option.or_none.symm
  | cons c choices ih =>
    calc (choices.foldl choose (p.choose c)).fault
      _ = (p.choose c).fault.or (choices.findSome? fault?) := ih _
      _ = (p.fault.or (fault? c)).or (choices.findSome? fault?) := by rw [fault_choose]
      _ = p.fault.or ((c :: choices).findSome? fault?) := by
        rw [Option.or_assoc, List.findSome?_cons]
        cases fault? c with
        | _ => rfl

end DeskPlan

namespace Desk

variable {venue : VenueProfile} {token : Option Bool} {d : Desk}

/-! ### The desk of a plan -/

theorem ofPlan_eq_ok {p : DeskPlan} :
  ofPlan venue token p = .ok d
    ↔ p.fault = none ∧ p.retry.Valid
      ∧ ∃ limiter, RateLimiter.ofLimit? (p.limit.getD venue.rateLimit) = some limiter
        ∧ d = opened venue p.retry limiter token
  := by
  rw [← RetryConfig.fault?_eq_none_iff, ofPlan]
  rcases p.fault with _ | e
  · rcases p.retry.fault? with _ | fault
    · rcases hlimiter : RateLimiter.ofLimit? (p.limit.getD venue.rateLimit) with _ | limiter
      · simp [hlimiter]
      · simp [hlimiter, eq_comm]
    · simp
  · simp

theorem ofPlan_of_fault {p : DeskPlan} {e : ConfigError} (h : p.fault = some e) :
  ofPlan venue token p = .error e
  := by
  rw [ofPlan, h]

/-! ### The desk of a sequence of choices -/

/-- The retry configuration in force after choices: the last one given, or else the standard one. -/
def chosenRetry (choices : List DeskChoice) : RetryConfig :=
  (lastGiven? config? choices).getD .standard

/-- The rate limit in force after choices: the last one given, or else that of the venue. -/
def chosenLimit (venue : VenueProfile) (choices : List DeskChoice) : RateLimit :=
  (lastGiven? limit? choices).getD venue.rateLimit

/-- All settings among the choices describe something. -/
def Described (choices : List DeskChoice) : Prop :=
  ∀ s, .settings s ∈ choices → ∃ config limit, s.Describes config limit

theorem described_iff {choices : List DeskChoice} :
  Described choices ↔ choices.findSome? fault? = none
  := by
  rw [List.findSome?_eq_none_iff]
  constructor
  · intro described c hc
    cases c with
    | settings s => exact Settings.fault?_eq_none_iff.2 (described s hc)
    | _ => rfl
  · intro faultless s hs
    exact Settings.fault?_eq_none_iff.1 (faultless _ hs)

theorem build_eq_ok {choices : List DeskChoice} :
  build venue token choices = .ok d
    ↔ Described choices ∧ (chosenRetry choices).Valid
      ∧ ∃ limiter, RateLimiter.ofLimit? (chosenLimit venue choices) = some limiter
        ∧ d = opened venue (chosenRetry choices) limiter token
  := by
  rw [build, ofPlan_eq_ok, DeskPlan.retry_foldl_choose, DeskPlan.limit_foldl_choose,
    DeskPlan.fault_foldl_choose, described_iff]
  simp only [DeskPlan.standard, Option.or_none, Option.none_or]
  rfl

/-- The first fault decides how the building ends. -/
theorem build_of_fault {choices : List DeskChoice} {e : ConfigError}
    (first : choices.findSome? fault? = some e) :
  build venue token choices = .error e
  := by
  apply ofPlan_of_fault
  rw [DeskPlan.fault_foldl_choose, first]
  rfl

/-- A desk is built exactly if all settings among the choices are accepted, which is to say that
they describe something, and the retry configuration and the rate limit that were given last are
valid, where those of the standard and of the venue stand in for what was never given.  It runs with
just these at all times.  If some settings are not accepted, the first of them decide the error,
whatever is chosen later. -/
theorem desks_are_built_as_last_chosen (venue : VenueProfile) (token : Option Bool)
    (choices : List DeskChoice) :
  (∀ (s : Settings) (config : RetryConfig) (limit : Option RateLimit),
    s.retryConfig = .ok config ∧ s.rateLimit? = .ok limit ↔ s.Describes config limit)
  ∧ ((∃ d, build venue token choices = .ok d)
    ↔ Described choices ∧ (chosenRetry choices).Valid ∧ (chosenLimit venue choices).Valid)
  ∧ (∀ d, build venue token choices = .ok d →
    ∃ limiter, d = opened venue (chosenRetry choices) limiter token ∧ limiter.admitted = []
      ∧ ∀ events, (d.after events).retry = chosenRetry choices
        ∧ (d.after events).limiter.limit = chosenLimit venue choices)
  ∧ (¬Described choices →
    ∃ before s later e, choices = before ++ .settings s :: later ∧ Described before
      ∧ (s.retryConfig = .error e
        ∨ (∃ config, s.retryConfig = .ok config) ∧ s.rateLimit? = .error e)
      ∧ build venue token choices = .error e)
  := by
  refine ⟨fun s config limit => Settings.describes_iff.symm, ?_, ?_, ?_⟩
  · constructor
    · rintro ⟨d, h⟩
      obtain ⟨described, retry, limiter, hlimiter, -⟩ := build_eq_ok.1 h
      exact ⟨described, retry, RateLimiter.exists_ofLimit?_iff.1 ⟨limiter, hlimiter⟩⟩
    · rintro ⟨described, retry, limit⟩
      obtain ⟨limiter, hlimiter⟩ := RateLimiter.exists_ofLimit?_iff.2 limit
      exact ⟨_, build_eq_ok.2 ⟨described, retry, limiter, hlimiter, rfl⟩⟩
  · intro d h
    obtain ⟨-, -, limiter, hlimiter, rfl⟩ := build_eq_ok.1 h
    obtain ⟨hlimit, fresh⟩ := RateLimiter.eq_of_ofLimit? hlimiter
    refine ⟨limiter, rfl, fresh, ?_⟩
    intro events
    rw [retry_after, limit_after]
    exact ⟨rfl, hlimit⟩
  · intro undescribed
    rw [described_iff] at undescribed
    obtain ⟨e, first⟩ := Option.ne_none_iff_exists'.1 undescribed
    obtain ⟨before, c, later, hchoices, hfault, faultless⟩ := List.findSome?_eq_some_iff.1 first
    have described := described_iff.2 (List.findSome?_eq_none_iff.2 faultless)
    cases c with
    | settings s =>
      exact ⟨before, s, later, e, hchoices, described, Settings.fault?_eq_some_iff.1 hfault,
        build_of_fault first⟩
    | _ => cases hfault

end Desk

end OrderDesk
