import OrderDesk.RateLimit.Basic

/-!
# Sliding windows

A `RateLimiter` admits a call unless `maxCalls` calls were admitted within the last period.
It keeps the readings of the clock at which it admitted calls, oldest first, and forgets from
the front those that have left the window; before the clock has run for a whole period nothing
has left it.
-/

namespace OrderDesk

/-- A rate limit with the readings of the clock, in nanoseconds, at which calls were admitted. -/
structure RateLimiter where
  limit : RateLimit
  valid : limit.isValid = true
  admitted : List Nat

namespace RateLimiter

/-- A limiter that has admitted nothing yet; limits that admit nothing are refused. -/
def ofLimit? (limit : RateLimit) : Option RateLimiter :=
  if h : limit.isValid = true then some ⟨limit, h, []⟩ else none

/-- The reading a whole period ago, if the clock has run that long. -/
def cutoff? (r : RateLimiter) (now : Nat) : Option Nat :=
  if r.limit.period.nanoseconds ≤ now then some (now - r.limit.period.nanoseconds) else none

/-- The limiter without the readings at its front that have left the window. -/
def evict (r : RateLimiter) (now : Nat) : RateLimiter :=
  match r.cutoff? now with
  | none => r
  | some cutoff => { r with admitted := r.admitted.dropWhile fun s => decide (s ≤ cutoff) }

/-- Asks for a permit: the limiter afterwards, and whether the permit was granted. -/
def acquire (r : RateLimiter) (now : Nat) : RateLimiter × Bool :=
  let r := r.evict now
  if r.admitted.length < r.limit.maxCalls then
    ({ r with admitted := r.admitted ++ [now] }, true)
  else (r, false)

/-- The number of permits left: the limiter afterwards, and the number. -/
def remaining (r : RateLimiter) (now : Nat) : RateLimiter × Nat :=
  let r := r.evict now
  (r, r.limit.maxCalls - r.admitted.length)

end RateLimiter

end OrderDesk
