import OrderDesk.Desk.Basic
import OrderDesk.Settings

/-!
# Building desks

A desk is built from its venue and a sequence of choices.  Later choices override earlier
ones, except that the first fault found in settings decides whatever follows.  Only a valid
retry configuration and a valid rate limit make a desk.
-/

namespace OrderDesk

/-- One choice in building a desk. -/
inductive DeskChoice where
  | retry (config : RetryConfig)
  | rateLimit (limit : RateLimit)
  | settings (settings : Settings)

/-- The choices made so far. -/
structure DeskPlan where
  retry : RetryConfig
  /-- The venue's own limit applies when it is missing. -/
  limit : Option RateLimit
  /-- The first fault found in settings. -/
  fault : Option ConfigError
deriving DecidableEq

namespace DeskPlan

/-- No choice made: the standard retries and the venue's own limit. -/
def standard : DeskPlan := ⟨.standard, none, none⟩

/-- The plan with a fault, unless it has one already. -/
def withFault (p : DeskPlan) (e : ConfigError) : DeskPlan :=
  { p with fault := p.fault.or (some e) }

/-- The plan with the retry configuration of settings, or their fault. -/
def chooseRetry (p : DeskPlan) (s : Settings) : DeskPlan :=
  match s.retryConfig with
  | .ok config => { p with retry := config }
  | .error e => p.withFault e

/-- The plan with the rate limit of settings if they have one, or their fault. -/
def chooseLimit (p : DeskPlan) (s : Settings) : DeskPlan :=
  match s.rateLimit? with
  | .ok (some limit) => { p with limit := some limit }
  | .ok none => p
  | .error e => p.withFault e

/-- The plan after one more choice. -/
def choose (p : DeskPlan) : DeskChoice → DeskPlan
  | .retry config => { p with retry := config }
  | .rateLimit limit => { p with limit := some limit }
  | .settings s => (p.chooseRetry s).chooseLimit s

end DeskPlan

namespace Desk

/-- A desk for a venue with a limiter and nothing done yet. -/
def opened (venue : VenueProfile) (retry : RetryConfig) (limiter : RateLimiter)
    (token : Option Bool) : Desk :=
  { venue, retry, limiter, shared := .empty, audit := [], sequence := 0, clock := 0, token
    tasks := .empty }

/-- The desk that a plan describes. -/
def ofPlan (venue : VenueProfile) (token : Option Bool) (p : DeskPlan) : Except ConfigError Desk :=
  match p.fault, p.retry.fault? with
  | some e, _ => .error e
  | none, some fault => .error (.invalid fault)
  | none, none =>
    let limit := p.limit.getD venue.rateLimit
    match RateLimiter.ofLimit? limit with
    | none => .error (.invalid (.emptyLimit limit))
    | some limiter => .ok (opened venue p.retry limiter token)

/-- The desk that a sequence of choices describes. -/
def build (venue : VenueProfile) (token : Option Bool) (choices : List DeskChoice) :
    Except ConfigError Desk :=
  ofPlan venue token (choices.foldl DeskPlan.choose .standard)

end Desk

end OrderDesk
