import OrderDesk.Retry.Run
import OrderDesk.Simulation.Timer
import OrderDesk.Venue.Profile

/-!
# Simulated retries

A retried operation is played against a script: each attempt takes its time, may cancel the
token, and then has the outcome that the script gives it; attempts beyond the script succeed
with `null`.  Time is virtual and counted in milliseconds.  A second party may cancel the token
at a given time.
-/

namespace OrderDesk

/-- How a simulated pause is spent. -/
inductive PauseMode where
  /-- The pause is over at once. -/
  | skip
  /-- The pause is over at once and nobody hears of it. -/
  | silent
  /-- The pause with the given number cancels the token; every pause is over at once. -/
  | cancelAt (number : Nat)
  /-- The pause with the given number cancels the token and never ends; the others are over at
  once. -/
  | hangAt (number : Nat)
  /-- The pause takes its time by a timer. -/
  | timed
deriving DecidableEq, Repr

/-- What a simulated attempt does. -/
structure ScriptedAttempt where
  /-- How many milliseconds the attempt takes. -/
  duration : Nat
  /-- Whether the token is cancelled before the attempt ends. -/
  cancels : Bool
  outcome : Except AttemptError Value

/-- A retried operation in virtual time. -/
structure RetrySimulation where
  run : RetryRun Value
  venue : Venue
  mode : PauseMode
  /-- The time in milliseconds. -/
  now : Nat
  /-- When a second party will cancel the token. -/
  cancelTime : Option Nat

namespace RetrySimulation

/-- The random word that simulated pauses are drawn from; it leaves a pause as it is. -/
def word : UInt64 := 0x8000000000000000

/-- A simulation in which nothing has happened; a second party may cancel the token after some
milliseconds. -/
def start (run : RetryRun Value) (venue : Venue) (mode : PauseMode) (cancelAfter : Option Nat) :
    RetrySimulation :=
  { run, venue, mode, now := 0, cancelTime := cancelAfter.map Timer.span }

/-- The simulation after an event of its run. -/
def event (s : RetrySimulation) (e : RetryEvent Value) : RetrySimulation :=
  { s with run := s.run.step e }

/-- The simulation at a later time; the token is cancelled on the way if its time has come. -/
def passTo (s : RetrySimulation) (time : Nat) : RetrySimulation :=
  match s.cancelTime with
  | some t => if t ≤ time then { s.event .cancel with now := time, cancelTime := none }
    else { s with now := time }
  | none => { s with now := time }

/-- A pause whose end is known: it ends, or is interrupted if the token is cancelled first. -/
def pauseUntil (s : RetrySimulation) (time : Nat) : RetrySimulation :=
  match s.cancelTime with
  | some t =>
    if s.run.listens ∧ t < time then (s.passTo t).event .interrupted
    else (s.passTo time).event .paused
  | none => (s.passTo time).event .paused

/-- A pause that never ends: only the token interrupts it. -/
def pauseForever (s : RetrySimulation) : RetrySimulation :=
  if s.run.isCancelled then s.event .interrupted
  else
    match s.cancelTime with
    | some t => (s.passTo t).event .interrupted
    | none => s

/-- The simulation after the pause that its run is in. -/
def pause (s : RetrySimulation) (delay : Duration) : RetrySimulation :=
  let number := s.run.pauses.length
  match s.mode with
  | .skip => s.event .paused
  | .silent => s.event .paused
  | .cancelAt n => (if number = n then s.event .cancel else s).event .paused
  | .hangAt n => if number = n then (s.event .cancel).pauseForever else s.event .paused
  | .timed => s.pauseUntil (s.now + Timer.spanOf delay)

/-- The simulation after one attempt and the pause that follows it. -/
def attempt (s : RetrySimulation) (a : ScriptedAttempt) : RetrySimulation :=
  let s := s.event .resume
  match s.run.status with
  | .active (.running _) =>
    let s := if a.duration = 0 then s else s.passTo (s.now + Timer.span a.duration)
    let s := if a.cancels then s.event .cancel else s
    let s := s.event (.outcome (a.outcome.mapError (AttemptError.judge s.venue)) word)
    match s.run.status with
    | .active (.pausing _ delay) => s.pause delay
    | _ => s
  | _ => s

/-- An attempt that succeeds with `null` at once. -/
def lastAttempt : ScriptedAttempt := ⟨0, false, .ok .null⟩

/-- The simulation after every attempt of the script and one that succeeds with `null`. -/
def play (s : RetrySimulation) (script : List ScriptedAttempt) : RetrySimulation :=
  (script ++ [lastAttempt]).foldl attempt s

/-- The pauses that were heard of. -/
def heardPauses (s : RetrySimulation) : List Duration :=
  if s.mode = .silent then [] else s.run.pauses

end RetrySimulation

end OrderDesk
