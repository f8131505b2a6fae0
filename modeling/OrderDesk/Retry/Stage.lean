import OrderDesk.Retry.Config

/-!
# The stages of a retried operation

Between two steps a retried operation is about to make an attempt, waits for the outcome of
one, or pauses before the next.  Each step leads to another stage or ends the operation with a
result, unless the operation crashes because no pause can be drawn.  Cancellation counts before
every attempt and, once a pause has been drawn, before every pause.
-/

namespace OrderDesk

/-- Where a retried operation stands; attempts are numbered from zero. -/
inductive RetryStage where
  /-- About to make an attempt. -/
  | ready (attempt : Nat)
  /-- Waiting for the outcome of an attempt. -/
  | running (attempt : Nat)
  /-- Pausing before an attempt. -/
  | pausing (attempt : Nat) (delay : Duration)
deriving DecidableEq, Repr

/-- What a step of a retried operation leads to. -/
inductive RetryStep (α : Type) where
  | goOn (stage : RetryStage)
  | finish (result : Except Failure α)
  /-- The operation comes to a sudden end without a result. -/
  | crash

namespace RetryStage

/-- Every operation starts with its first attempt ahead. -/
def start : RetryStage := .ready 0

/-- Begins an attempt, unless the operation has been cancelled. -/
def begin {α : Type} (cancelled : Bool) (attempt : Nat) : RetryStep α :=
  if cancelled then .finish (.error .cancelled) else .goOn (.running attempt)

/-- Goes on after an attempt has failed.  A failure that may not be retried and the failure of
the last attempt end the operation; otherwise the next attempt follows after its pause, which is
drawn before the operation looks whether it has been cancelled. -/
def afterFailure {α : Type} (config : RetryConfig) (cancelled : Bool) (word : UInt64)
    (attempt : Nat) (failure : Failure) : RetryStep α :=
  if ¬failure.isRetryable then .finish (.error failure)
  else if config.attempts ≤ attempt + 1 then .finish (.error failure)
  else
    match config.nextDelay? attempt word with
    | none => .crash
    | some delay =>
      if cancelled then .finish (.error .cancelled)
      else if delay.isZero then .goOn (.ready (attempt + 1))
      else .goOn (.pausing (attempt + 1) delay)

/-- Goes on after an attempt. -/
def afterAttempt {α : Type} (config : RetryConfig) (cancelled : Bool) (word : UInt64)
    (attempt : Nat) (outcome : Except Failure α) : RetryStep α :=
  match outcome with
  | .ok a => .finish (.ok a)
  | .error failure => afterFailure config cancelled word attempt failure

end RetryStage

end OrderDesk
