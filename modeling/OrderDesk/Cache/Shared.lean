import OrderDesk.Cache.Basic

/-!
# Calls on a shared cache

Any number of calls may ask one cache for ids at the same time.  A call that finds its id free
resolves it; one that finds it pending for the same request waits on the channel of the slot
and, when it is woken, returns the outcome published there, or asks again if the channel was
closed.  A `SharedCache` is the cache with its calls, and every interleaving of the calls is a
sequence of `CacheEvent`s.
-/

namespace OrderDesk

/-- Where a call stands. -/
inductive CallPhase where
  /-- Waiting on the channel of another call. -/
  | waiting (channel : Ticket)
  /-- Resolving the id. -/
  | resolving
  | returned (outcome : Outcome)
  /-- Dropped before it returned. -/
  | dropped
deriving DecidableEq

/-- A call on a shared cache. -/
structure CacheCall where
  id : ClientId
  request : Payload
  phase : CallPhase
deriving DecidableEq

/-- A cache with the calls on it, under their tickets. -/
structure SharedCache where
  cache : Cache
  calls : Table CacheCall

/-- One step of one call, or an update of a response. -/
inductive CacheEvent where
  /-- A new call asks for an id. -/
  | remember (ticket : Ticket) (id : ClientId) (request : Payload)
  /-- The call that resolves an id has its outcome. -/
  | settle (ticket : Ticket) (outcome : Outcome)
  /-- A waiting call looks at its channel. -/
  | wake (ticket : Ticket)
  /-- A call is dropped. -/
  | abort (ticket : Ticket)
  | update (id : ClientId) (response : Payload)

namespace SharedCache

/-- An empty cache without calls. -/
def empty : SharedCache := ⟨.empty, .empty⟩

/-- The phase of a call that has asked for an id. -/
def phaseOf : Entrance → CallPhase
  | .answered outcome => .returned outcome
  | .waits channel => .waiting channel
  | .resolves => .resolving

/-- The call under a ticket. -/
def call? (s : SharedCache) (ticket : Ticket) : Option CacheCall := s.calls.get? ticket

/-- The calls with another one under a ticket. -/
def setCall (s : SharedCache) (ticket : Ticket) (call : CacheCall) : SharedCache :=
  { s with calls := s.calls.insert ticket call }

@[simp]
theorem cache_setCall (s : SharedCache) (ticket : Ticket) (call : CacheCall) :
  (s.setCall ticket call).cache = s.cache
  := rfl

@[simp]
theorem call?_setCall (s : SharedCache) (ticket : Ticket) (call : CacheCall) (other : Ticket) :
  (s.setCall ticket call).call? other = if other = ticket then some call else s.call? other
  := Table.get?_insert s.calls ticket call other

/-- The same calls on another cache. -/
def setCache (s : SharedCache) (cache : Cache) : SharedCache := { s with cache }

@[simp]
theorem cache_setCache (s : SharedCache) (cache : Cache) :
  (s.setCache cache).cache = cache
  := rfl

@[simp]
theorem call?_setCache (s : SharedCache) (cache : Cache) (ticket : Ticket) :
  (s.setCache cache).call? ticket = s.call? ticket
  := rfl

/-- A call asks for an id, for the first time or again. -/
def ask (s : SharedCache) (ticket : Ticket) (id : ClientId) (request : Payload) : SharedCache :=
  let entered := s.cache.enter ticket id (.of request)
  (s.setCache entered.1).setCall ticket ⟨id, request, phaseOf entered.2⟩

/-- A new call asks for an id; a ticket that is in use is not given again. -/
def remember (s : SharedCache) (ticket : Ticket) (id : ClientId) (request : Payload) :
    SharedCache :=
  match s.call? ticket with
  | none => s.ask ticket id request
  | some _ => s

/-- The call that resolves an id has its outcome, stores and publishes it, and returns it. -/
def settle (s : SharedCache) (ticket : Ticket) (outcome : Outcome) : SharedCache :=
  match s.call? ticket with
  | some call =>
    match call.phase with
    | .resolving =>
      (s.setCache (s.cache.settle call.id (.of call.request) outcome)).setCall ticket
        { call with phase := .returned outcome }
    | _ => s
  | none => s

/-- A waiting call looks at its channel: it returns a published outcome, asks again if the
channel is closed, and otherwise goes on waiting. -/
def wake (s : SharedCache) (ticket : Ticket) : SharedCache :=
  match s.call? ticket with
  | some call =>
    match call.phase with
    | .waiting channel =>
      match s.cache.channel? channel with
      | some (.settled outcome) => s.setCall ticket { call with phase := .returned outcome }
      | some .closed => s.ask ticket call.id call.request
      | _ => s
    | _ => s
  | none => s

/-- A call is dropped; if it was resolving an id, the id is free again. -/
def abort (s : SharedCache) (ticket : Ticket) : SharedCache :=
  match s.call? ticket with
  | some call =>
    match call.phase with
    | .resolving =>
      (s.setCache (s.cache.abandon call.id)).setCall ticket { call with phase := .dropped }
    | .waiting _ => s.setCall ticket { call with phase := .dropped }
    | _ => s
  | none => s

/-- Replaces the response of an id. -/
def update (s : SharedCache) (id : ClientId) (response : Payload) : SharedCache :=
  s.setCache (s.cache.update id response)

/-- The cache and its calls after an event; an event that fits no call changes nothing. -/
def step (s : SharedCache) : CacheEvent → SharedCache
  | .remember ticket id request => s.remember ticket id request
  | .settle ticket outcome => s.settle ticket outcome
  | .wake ticket => s.wake ticket
  | .abort ticket => s.abort ticket
  | .update id response => s.update id response

/-- The cache and its calls after a sequence of events. -/
def steps (s : SharedCache) (events : List CacheEvent) : SharedCache := events.foldl step s

/-- Whether a waiting call would get further if it looked at its channel. -/
def canWake (s : SharedCache) (ticket : Ticket) : Bool :=
  match s.call? ticket with
  | some ⟨_, _, .waiting channel⟩ => s.cache.channel? channel != some .unsettled
  | _ => false

end SharedCache

end OrderDesk
