import OrderDesk.Retry.Stage

/-!
# Runs of a retried operation

A `RetryRun` follows one retried operation through the events around it: the outcome of an
attempt, the end of a pause, the cancellation of its token at any moment.  It counts the
attempts and keeps the pauses that were asked for.
-/

namespace OrderDesk

/-- Whether a run goes on or has ended. -/
inductive RetryStatus (α : Type) where
  | active (stage : RetryStage)
  | done (result : Except Failure α)
  /-- The run has ended without a result. -/
  | crashed
deriving DecidableEq

/-- A retried operation with its surroundings. -/
structure RetryRun (α : Type) where
  config : RetryConfig
  /-- Whether the operation was given the token. -/
  listens : Bool
  /-- Whether the token is cancelled. -/
  cancelled : Bool
  status : RetryStatus α
  /-- The number of attempts begun. -/
  attempts : Nat
  /-- The pauses asked for, in order. -/
  pauses : List Duration

/-- What may happen around a retried operation. -/
inductive RetryEvent (α : Type) where
  /-- The operation is carried on when an attempt is ahead. -/
  | resume
  /-- An attempt ends; the word is what a random pause would be drawn from. -/
  | outcome (result : Except Failure α) (word : UInt64)
  /-- The pause is over. -/
  | paused
  /-- The pause is interrupted because the token is cancelled. -/
  | interrupted
  /-- The token is cancelled. -/
  | cancel

namespace RetryRun

variable {α : Type}

/-- A run that has not begun its first attempt. -/
def start (config : RetryConfig) (listens cancelled : Bool) : RetryRun α :=
  { config, listens, cancelled, status := .active .start, attempts := 0, pauses := [] }

/-- Whether the operation knows itself to be cancelled. -/
def isCancelled (r : RetryRun α) : Bool := r.listens && r.cancelled

/-- The run after a step of its operation. -/
def enter (r : RetryRun α) : RetryStep α → RetryRun α
  | .finish result => { r with status := .done result }
  | .crash => { r with status := .crashed }
  | .goOn (.ready attempt) => { r with status := .active (.ready attempt) }
  | .goOn (.running attempt) =>
    { r with status := .active (.running attempt), attempts := r.attempts + 1 }
  | .goOn (.pausing attempt delay) =>
    { r with status := .active (.pausing attempt delay), pauses := r.pauses ++ [delay] }

/-- The run after an event; an event that does not fit the stage changes nothing. -/
def step (r : RetryRun α) : RetryEvent α → RetryRun α
  | .cancel => { r with cancelled := true }
  | .resume =>
    match r.status with
    | .active (.ready attempt) => r.enter (RetryStage.begin r.isCancelled attempt)
    | _ => r
  | .outcome result word =>
    match r.status with
    | .active (.running attempt) =>
      r.enter (RetryStage.afterAttempt r.config r.isCancelled word attempt result)
    | _ => r
  | .paused =>
    match r.status with
    | .active (.pausing attempt _) => { r with status := .active (.ready attempt) }
    | _ => r
  | .interrupted =>
    match r.status with
    | .active (.pausing _ _) =>
      if r.isCancelled then { r with status := .done (.error .cancelled) } else r
    | _ => r

/-- The run after a sequence of events. -/
def steps (r : RetryRun α) (events : List (RetryEvent α)) : RetryRun α :=
  events.foldl step r

end RetryRun

end OrderDesk
