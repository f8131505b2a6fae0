import OrderDesk.Cache.Shared

/-!
# Simulated calls on a cache

Tasks ask one cache for ids, and the outcomes of their resolvers are handed to them from
outside, before or after a resolver has started.  After each step every task runs until it can
get no further.
-/

namespace OrderDesk

/-- A shared cache with named tasks on it. -/
structure CacheSimulation where
  shared : SharedCache
  /-- How many tickets have been given. -/
  tickets : Nat
  /-- The running tasks with their tickets, oldest first. -/
  running : List (String × Ticket)
  /-- The outcomes handed to tasks, under their tickets. -/
  handed : Table Outcome
  /-- The tasks whose resolver has started since the last step. -/
  started : List String
  /-- The tasks that have ended since the last step, and how unless they were dropped. -/
  ended : List (String × Option Outcome)

namespace CacheSimulation

/-- A simulation with an empty cache. -/
def empty : CacheSimulation := ⟨.empty, 0, [], .empty, [], []⟩

/-- The name of the next ticket. -/
def nextTicket (s : CacheSimulation) : Ticket := toString s.tickets

/-- The phase of a call. -/
def phase? (s : CacheSimulation) (ticket : Ticket) : Option CallPhase :=
  (s.shared.call? ticket).map CacheCall.phase

/-- The simulation after an event on the cache, in which the resolver of a task may start. -/
def event (s : CacheSimulation) (task : String) (ticket : Ticket) (e : CacheEvent) :
    CacheSimulation :=
  let shared := s.shared.step e
  let starts := (shared.call? ticket).map CacheCall.phase = some .resolving ∧
    s.phase? ticket ≠ some .resolving
  { s with shared, started := if starts then s.started ++ [task] else s.started }

/-- One step of a task, if it can get further. -/
def advance? (s : CacheSimulation) (task : String) (ticket : Ticket) : Option CacheSimulation :=
  match s.phase? ticket with
  | some .resolving => (s.handed.get? ticket).map fun o => s.event task ticket (.settle ticket o)
  | some (.waiting _) =>
    if s.shared.canWake ticket then some (s.event task ticket (.wake ticket)) else none
  | _ => none

/-- The simulation once every task has had the chance of a step. -/
def pass (s : CacheSimulation) : CacheSimulation :=
  s.running.foldl (fun s t => (s.advance? t.1 t.2).getD s) s

/-- The simulation after a number of passes. -/
def passes : Nat → CacheSimulation → CacheSimulation
  | 0, s => s
  | n + 1, s => passes n s.pass

/-- The outcome of a task that has returned. -/
def returned? (s : CacheSimulation) (ticket : Ticket) : Option Outcome :=
  match s.phase? ticket with
  | some (.returned outcome) => some outcome
  | _ => none

/-- Moves the tasks that have returned from the running to the ended ones. -/
def collect (s : CacheSimulation) : CacheSimulation :=
  { s with
    running := s.running.filter fun t => (s.returned? t.2).isNone
    ended := s.ended ++ s.running.filterMap fun t => (s.returned? t.2).map fun o => (t.1, some o) }

/-- Lets every task run until it can get no further.  Each task wakes, starts to resolve and
settles at most once on the way. -/
def settleDown (s : CacheSimulation) : CacheSimulation :=
  (passes (3 * s.running.length + 3) s).collect

/-- Forgets what has happened since the last step. -/
def forget (s : CacheSimulation) : CacheSimulation := { s with started := [], ended := [] }

/-- Starts a task. -/
def start (s : CacheSimulation) (task : String) (id : ClientId) (request : Payload) :
    CacheSimulation :=
  let ticket := s.nextTicket
  ({ s with tickets := s.tickets + 1, running := s.running ++ [(task, ticket)] }.event task ticket
    (.remember ticket id request)).settleDown

/-- Asks for an id without a task, with the outcome of the resolver at hand: the outcome unless
the call has to wait, and whether the resolver ran. -/
def remember (s : CacheSimulation) (id : ClientId) (request : Payload) (outcome : Outcome) :
    CacheSimulation × Option Outcome × Bool :=
  let ticket := s.nextTicket
  let asked := s.shared.remember ticket id request
  let resolves := (asked.call? ticket).map CacheCall.phase = some .resolving
  let shared := if resolves then asked.settle ticket outcome else asked
  let s := { s with shared, tickets := s.tickets + 1 }
  (s.settleDown, s.returned? ticket, decide resolves)

/-- Hands an outcome to the resolver of a task: whether the task can still use it. -/
def settle (s : CacheSimulation) (task : String) (outcome : Outcome) : CacheSimulation × Bool :=
  match s.running.find? fun t => t.1 == task with
  | some (_, ticket) =>
    match s.handed.get? ticket with
    | none => ({ s with handed := s.handed.insert ticket outcome }.settleDown, true)
    | some _ => (s, false)
  | none => (s, false)

/-- Drops a task: whether it was still running. -/
def abort (s : CacheSimulation) (task : String) : CacheSimulation × Bool :=
  match s.running.find? fun t => t.1 == task with
  | some (_, ticket) =>
    ({ s with
      shared := s.shared.step (.abort ticket)
      running := s.running.filter fun t => t.2 != ticket
      ended := s.ended ++ [(task, none)] }.settleDown, true)
  | none => (s, false)

/-- Replaces the response of an id. -/
def update (s : CacheSimulation) (id : ClientId) (response : Payload) : CacheSimulation :=
  { s with shared := s.shared.step (.update id response) }.settleDown

end CacheSimulation

end OrderDesk
