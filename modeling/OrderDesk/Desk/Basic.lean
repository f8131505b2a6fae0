import OrderDesk.Audit
import OrderDesk.Cache.Shared
import OrderDesk.RateLimit.Window
import OrderDesk.Reconciliation
import OrderDesk.Retry.Stage
import OrderDesk.Venue.Profile

/-!
# Desks

A desk submits, cancels and reconciles orders at one venue.  Every call to the venue takes a
permit from the rate limiter and is retried as the configuration says; submitted orders are
remembered under their client ids; operations that succeed are audited.  Any number of
operations may be under way at once: each is a `Task`, and the desk is what they share.
-/

namespace OrderDesk

/-- What a desk can be asked to do. -/
inductive Operation where
  | submit (order : Order) (clientId : Option ClientId)
  | cancel (clientId : ClientId)
  | reconcile
deriving DecidableEq

/-- A call to the venue. -/
inductive VenueCall where
  | submit (request : Payload)
  | cancel (target : CancelTarget)
  | openOrders
deriving DecidableEq

/-- What an operation that succeeds returns. -/
inductive Answer where
  | response (payload : Payload)
  | report (report : Reconciliation)
deriving DecidableEq

/-- How an operation ended. -/
abbrev Result := Except Failure Answer

/-- An operation under way, or its end. -/
inductive Task where
  /-- A submission that waits for another one of the same id and request. -/
  | waiting (id : ClientId) (request : Payload)
  /-- A submission that calls the venue. -/
  | submitting (id : ClientId) (request : Payload) (stage : RetryStage)
  /-- A cancel of the order with that id, which calls the venue. -/
  | cancelling (id : ClientId) (target : CancelTarget) (stage : RetryStage)
  | reconciling (stage : RetryStage)
  /-- A reconciliation that has its listing and has not looked at the cache yet. -/
  | comparing (orders : List Payload)
  | finished (result : Result)
  | dropped
deriving DecidableEq

namespace Task

/-- The stage of a task that calls the venue. -/
def stage? : Task → Option RetryStage
  | .submitting _ _ stage => some stage
  | .cancelling _ _ stage => some stage
  | .reconciling stage => some stage
  | _ => none

/-- The call that a task makes to the venue. -/
def venueCall? : Task → Option VenueCall
  | .submitting _ request _ => some (.submit request)
  | .cancelling _ target _ => some (.cancel target)
  | .reconciling _ => some .openOrders
  | _ => none

/-- The task at another stage. -/
def atStage (t : Task) (stage : RetryStage) : Task :=
  match t with
  | .submitting id request _ => .submitting id request stage
  | .cancelling id target _ => .cancelling id target stage
  | .reconciling _ => .reconciling stage
  | t => t

end Task

/-- The state that the operations at one venue share. -/
structure Desk where
  venue : VenueProfile
  retry : RetryConfig
  limiter : RateLimiter
  shared : SharedCache
  audit : AuditLog
  /-- The number of ids generated. -/
  sequence : UInt64
  /-- The reading of the clock in nanoseconds. -/
  clock : Nat
  /-- Whether the cancel token is cancelled; a desk may have none. -/
  token : Option Bool
  /-- The operations under their tickets. -/
  tasks : Table Task

/-- What a step of a desk shows to the outside. -/
inductive DeskEffect where
  /-- The rate limiter granted a permit. -/
  | admitted (ticket : Ticket) (clock : Nat)
  /-- The rate limiter granted no permit. -/
  | refused (ticket : Ticket) (clock : Nat)
  | called (ticket : Ticket) (call : VenueCall)
  | paused (ticket : Ticket) (delay : Duration)
  | finished (ticket : Ticket) (result : Result)
deriving DecidableEq

/-- One step of one operation, or a change around the desk.  The words are what random pauses
would be drawn from. -/
inductive DeskEvent where
  /-- A new operation begins. -/
  | begin (ticket : Ticket) (operation : Operation)
  /-- A task with an attempt ahead makes it. -/
  | resume (ticket : Ticket) (word : UInt64)
  /-- The venue accepts an order. -/
  | accepted (ticket : Ticket) (response : Payload)
  /-- The venue acknowledges a cancel, with or without a body. -/
  | acknowledged (ticket : Ticket) (raw : Option Payload)
  /-- The venue lists its open orders. -/
  | listed (ticket : Ticket) (orders : List Payload)
  /-- A reconciliation that has its listing compares it with the cache. -/
  | compare (ticket : Ticket)
  /-- The call to the venue fails. -/
  | failed (ticket : Ticket) (failure : TransportFailure) (word : UInt64)
  /-- The pause of a task is over. -/
  | paused (ticket : Ticket)
  /-- The pause of a task is interrupted because the token is cancelled. -/
  | interrupted (ticket : Ticket)
  /-- A waiting submission looks at its channel. -/
  | wake (ticket : Ticket)
  /-- An operation is dropped. -/
  | abort (ticket : Ticket)
  /-- The cancel token is cancelled. -/
  | cancel
  /-- Time passes. -/
  | advance (nanoseconds : Nat)
  /-- A cached response is replaced from outside. -/
  | update (id : ClientId) (response : Payload)

namespace Desk

/-- The orders that the desk remembers. -/
def cache (d : Desk) : Cache := d.shared.cache

/-- Whether the operations of the desk are cancelled. -/
def isCancelled (d : Desk) : Bool := d.token == some true

/-- The task under a ticket. -/
def task? (d : Desk) (ticket : Ticket) : Option Task := d.tasks.get? ticket

/-- The desk with a task in another state. -/
def setTask (d : Desk) (ticket : Ticket) (task : Task) : Desk :=
  { d with tasks := d.tasks.insert ticket task }

@[simp]
theorem task?_setTask (d : Desk) (ticket : Ticket) (task : Task) (other : Ticket) :
  (d.setTask ticket task).task? other = if other = ticket then some task else d.task? other
  := Table.get?_insert d.tasks ticket task other

@[simp]
theorem shared_setTask (d : Desk) (ticket : Ticket) (task : Task) :
  (d.setTask ticket task).shared = d.shared
  := rfl

end Desk

end OrderDesk
