import OrderDesk.Desk.Builder
import OrderDesk.Desk.Step
import OrderDesk.Simulation.Timer
import OrderDesk.Simulation.Venue

/-!
# Simulated desks

A desk is run against a scripted venue in virtual time, counted in milliseconds.  Tasks take
turns: each runs until it has to wait, those that are woken queue up behind the others, those
that are woken by timers in the order in which the timers were set, and time passes only when
no task can run.  The time of a task can be limited; then it is dropped at the end of the first
turn after its deadline that does not finish it.
-/

namespace OrderDesk

/-- How the pauses of a simulated desk are spent. -/
inductive DeskPause where
  /-- Pauses are over at once. -/
  | skip
  /-- Pauses are over at once, and the desk's clock has run on meanwhile. -/
  | advance
  /-- Pauses take their time by a timer. -/
  | timed
deriving DecidableEq, Repr

/-- Where a call to the scripted venue stands. -/
inductive Flight where
  /-- The call takes until the given time. -/
  | lasting (time : Nat) (gate : Option String) (reply : VenueReply)
  /-- The call waits at a gate. -/
  | held (gate : String) (reply : VenueReply)
  /-- The call is about to be answered. -/
  | landed (reply : VenueReply)

/-- How a started task ended. -/
inductive TaskEnd where
  | finished (result : Result)
  /-- It was dropped at its deadline. -/
  | elapsed
  /-- It was dropped from outside. -/
  | aborted
  /-- It never began, since its order could not be read. -/
  | unreadable

/-- A gate: the permits left at it and the calls that wait for one. -/
structure Gate where
  permits : Nat
  waiting : List Ticket

/-- A desk with its scripted venue in virtual time. -/
structure DeskSimulation where
  desk : Desk
  venue : ScriptedVenue
  pause : DeskPause
  /-- Whether the desk's clock is the one that is advanced by hand. -/
  manual : Bool
  /-- By how much the manual clock has been advanced, in nanoseconds. -/
  elapsed : Nat
  /-- The time in milliseconds. -/
  now : Nat
  /-- How many tickets have been given. -/
  tickets : Nat
  /-- The running tasks with their tickets, oldest first. -/
  running : List (String × Ticket)
  /-- The calls to the venue that are under way. -/
  flights : Table Flight
  /-- When the pauses under way end. -/
  pauses : Table Nat
  gates : Table Gate
  /-- The deadlines of the tasks whose time is limited. -/
  deadlines : Table Nat
  /-- The times at which a task is to be woken, in the order in which they were set. -/
  timers : List (Nat × Ticket)
  /-- The calls to the venue since the last step, newest first. -/
  calls : List VenueCall
  /-- The pauses asked for since the last step, newest first. -/
  slept : List Duration
  /-- The tasks that have ended since the last step, and how. -/
  ended : List (String × TaskEnd)

namespace DeskSimulation

/-- A simulation of a desk at which nothing has happened. -/
def start (desk : Desk) (pause : DeskPause) (manual : Bool) : DeskSimulation :=
  { desk, venue := .empty, pause, manual, elapsed := 0, now := 0, tickets := 0, running := []
    flights := .empty, pauses := .empty, gates := .empty, deadlines := .empty, timers := []
    calls := [], slept := [], ended := [] }

/-- The random word that simulated pauses are drawn from; it leaves a pause as it is. -/
def word : UInt64 := 0x8000000000000000

/-- The simulation with the manual clock advanced. -/
def advanceClock (s : DeskSimulation) (nanoseconds : Nat) : DeskSimulation :=
  { s with
    elapsed := s.elapsed + nanoseconds
    desk := if s.manual then (s.desk.step (.advance nanoseconds)).1 else s.desk }

/-- The gate of a name, closed and deserted if it has not been used. -/
def gate (s : DeskSimulation) (name : String) : Gate := (s.gates.get? name).getD ⟨0, []⟩

/-- Sets a timer that will wake a task: the simulation and the time at which it rings. -/
def setTimer (s : DeskSimulation) (ticket : Ticket) (span : Nat) : DeskSimulation × Nat :=
  ({ s with timers := s.timers ++ [(s.now + span, ticket)] }, s.now + span)

/-- A call arrives at its gate, if it has one: it takes a permit or waits. -/
def arrive (s : DeskSimulation) (ticket : Ticket) (gate : Option String) (reply : VenueReply) :
    DeskSimulation :=
  match gate with
  | none => { s with flights := s.flights.insert ticket (.landed reply) }
  | some name =>
    let g := s.gate name
    if 0 < g.permits then
      { s with
        gates := s.gates.insert name { g with permits := g.permits - 1 }
        flights := s.flights.insert ticket (.landed reply) }
    else
      { s with
        gates := s.gates.insert name { g with waiting := g.waiting ++ [ticket] }
        flights := s.flights.insert ticket (.held name reply) }

/-- A call reaches the venue, which plays its next entry. -/
def takeOff (s : DeskSimulation) (ticket : Ticket) (call : VenueCall) : DeskSimulation :=
  let (venue, entry, reply) := s.venue.take call
  let s := { s with venue, calls := call :: s.calls }
  let s := if entry.cancelsToken then { s with desk := (s.desk.step .cancel).1 } else s
  let s := if entry.advance = 0 then s else s.advanceClock entry.advance
  if entry.duration = 0 then s.arrive ticket entry.gate reply
  else
    let (s, time) := s.setTimer ticket (Timer.span entry.duration)
    { s with flights := s.flights.insert ticket (.lasting time entry.gate reply) }

/-- A task begins a pause. -/
def beginPause (s : DeskSimulation) (ticket : Ticket) (delay : Duration) : DeskSimulation :=
  let s := { s with slept := delay :: s.slept }
  match s.pause with
  | .skip => { s with pauses := s.pauses.insert ticket s.now }
  | .advance =>
    let s := s.advanceClock delay.nanoseconds
    { s with pauses := s.pauses.insert ticket s.now }
  | .timed =>
    let (s, time) := s.setTimer ticket (Timer.spanOf delay)
    { s with pauses := s.pauses.insert ticket time }

/-- The surroundings react to what a step of the desk has shown. -/
def react (s : DeskSimulation) : DeskEffect → DeskSimulation
  | .called ticket call => s.takeOff ticket call
  | .paused ticket delay => s.beginPause ticket delay
  | _ => s

/-- The simulation after an event at the desk. -/
def event (s : DeskSimulation) (e : DeskEvent) : DeskSimulation :=
  let (desk, effects) := s.desk.step e
  effects.foldl react { s with desk }

/-- The event by which the reply to a call reaches the desk. -/
def replyEvent (ticket : Ticket) : VenueReply → DeskEvent
  | .accepted response => .accepted ticket response
  | .acknowledged raw => .acknowledged ticket raw
  | .listed orders => .listed ticket orders
  | .failed failure => .failed ticket failure word

/-- One step of a call to the venue, if it can get further. -/
def advanceFlight? (s : DeskSimulation) (ticket : Ticket) : Option DeskSimulation :=
  match s.flights.get? ticket with
  | some (.lasting time gate reply) =>
    if time ≤ s.now then some (s.arrive ticket gate reply) else none
  | some (.landed reply) =>
    some ({ s with flights := s.flights.erase ticket }.event (replyEvent ticket reply))
  | _ => none

/-- One step of a task, if it can get further. -/
def advance? (s : DeskSimulation) (ticket : Ticket) : Option DeskSimulation :=
  match s.desk.task? ticket with
  | some (.waiting _ _) =>
    if s.desk.shared.canWake ticket then some (s.event (.wake ticket)) else none
  | some (.comparing _) => some (s.event (.compare ticket))
  | some task =>
    match task.stage? with
    | some (.ready _) => some (s.event (.resume ticket word))
    | some (.running _) => s.advanceFlight? ticket
    | some (.pausing _ _) =>
      if s.desk.isCancelled then
        some ({ s with pauses := s.pauses.erase ticket }.event (.interrupted ticket))
      else if (s.pauses.get? ticket).any (· ≤ s.now) then
        some ({ s with pauses := s.pauses.erase ticket }.event (.paused ticket))
      else none
    | none => none
  | none => none

/-- Runs a task until it has to wait, at most the given number of steps. -/
def runTask : Nat → DeskSimulation → Ticket → DeskSimulation
  | 0, s, _ => s
  | fuel + 1, s, ticket =>
    match s.advance? ticket with
    | some s => runTask fuel s ticket
    | none => s

/-- How many steps a task can take at most: each attempt is begun, called, answered and
followed by a pause, a submission may wait before, and a reconciliation compares after. -/
def taskFuel (s : DeskSimulation) : Nat := 6 * s.desk.retry.attempts + 6

/-- The result of a task that has ended. -/
def result? (s : DeskSimulation) (ticket : Ticket) : Option Result :=
  match s.desk.task? ticket with
  | some (.finished result) => some result
  | _ => none

/-- Whether a task has neither ended nor been dropped. -/
def isUnderWay (s : DeskSimulation) (ticket : Ticket) : Bool :=
  match s.desk.task? ticket with
  | some (.finished _) => false
  | some .dropped => false
  | some _ => true
  | none => false

/-- Removes what would wake a task. -/
def clearTimers (s : DeskSimulation) (ticket : Ticket) : DeskSimulation :=
  { s with
    deadlines := s.deadlines.erase ticket
    timers := s.timers.filter fun t => t.2 != ticket }

/-- Drops a task with everything it waits for. -/
def drop (s : DeskSimulation) (ticket : Ticket) : DeskSimulation :=
  let gates := match s.flights.get? ticket with
    | some (.held name _) =>
      let g := s.gate name
      s.gates.insert name { g with waiting := g.waiting.filter (· != ticket) }
    | _ => s.gates
  { s.clearTimers ticket with
    desk := (s.desk.step (.abort ticket)).1
    flights := s.flights.erase ticket
    pauses := s.pauses.erase ticket
    gates }

/-- Drops a running task that ends in the given way. -/
def endTask (s : DeskSimulation) (ticket : Ticket) (taskEnd : TaskEnd) : DeskSimulation :=
  let (gone, running) := s.running.partition fun t => t.2 == ticket
  { s.drop ticket with running, ended := s.ended ++ gone.map fun t => (t.1, taskEnd) }

/-- Whether the deadline of a task has come. -/
def isOverdue (s : DeskSimulation) (ticket : Ticket) : Bool :=
  (s.deadlines.get? ticket).any (· ≤ s.now)

/-- A task takes its turn: it runs until it has to wait, and is dropped if its deadline has come
by then. -/
def turn (s : DeskSimulation) (ticket : Ticket) : DeskSimulation :=
  let s := runTask s.taskFuel s ticket
  if ¬s.isUnderWay ticket then s.clearTimers ticket
  else if s.isOverdue ticket then s.endTask ticket .elapsed
  else s

/-- Whether a task gets further if it takes its turn. -/
def canGoOn (s : DeskSimulation) (ticket : Ticket) : Bool := (s.advance? ticket).isSome

/-- The running tasks that get further if they take their turn, besides those in a queue. -/
def awake (s : DeskSimulation) (queue : List Ticket) : List Ticket :=
  (s.running.map Prod.snd).filter fun t => !queue.contains t && s.canGoOn t

/-- Lets the tasks of a queue take their turns, and behind them those that are woken by it. -/
def runQueue : Nat → DeskSimulation → List Ticket → DeskSimulation
  | 0, s, _ => s
  | _, s, [] => s
  | fuel + 1, s, ticket :: queue =>
    let s := s.turn ticket
    runQueue fuel s (queue ++ s.awake queue)

/-- Moves the tasks that have finished from the running to the ended ones. -/
def collect (s : DeskSimulation) : DeskSimulation :=
  { s with
    running := s.running.filter fun t => (s.result? t.2).isNone
    ended := s.ended ++
      s.running.filterMap fun t => (s.result? t.2).map fun r => (t.1, .finished r) }

/-- Runs the tasks until each has to wait, those of a queue first.  A task is woken at most once
by the end of each other one. -/
def settleFrom (s : DeskSimulation) (queue : List Ticket) : DeskSimulation :=
  let fuel := queue.length + (s.running.length + 1) * (s.running.length + 1)
  (runQueue fuel s (queue ++ s.awake queue)).collect

/-- Runs the tasks until each has to wait. -/
def settleDown (s : DeskSimulation) : DeskSimulation := s.settleFrom []

/-- The next time at which a timer rings. -/
def nextTime? (s : DeskSimulation) : Option Nat := (s.timers.map Prod.fst).min?

/-- A listing is answered when its time is over, whenever its task takes its turn then. -/
def answer (s : DeskSimulation) (ticket : Ticket) : DeskSimulation :=
  match s.flights.get? ticket with
  | some (.lasting time none (.listed orders)) =>
    if time ≤ s.now then
      { s with flights := s.flights.erase ticket }.event (.listed ticket orders)
    else s
  | _ => s

/-- The simulation at a later time, and the tasks woken by then in the order in which their
timers were set. -/
def wakeAt (s : DeskSimulation) (time : Nat) : DeskSimulation × List Ticket :=
  let due := ((s.timers.filter fun t => t.1 ≤ time).map Prod.snd).eraseDups
  let s := { s with now := time, timers := s.timers.filter fun t => ¬t.1 ≤ time }
  (due.foldl answer s, due)

/-- Lets time pass until a given time, waking tasks on the way. -/
def passTo : Nat → DeskSimulation → Nat → DeskSimulation
  | 0, s, time => { s with now := time }
  | fuel + 1, s, time =>
    match s.nextTime? with
    | some next =>
      if next ≤ time then
        let (s, due) := s.wakeAt next
        passTo fuel (s.settleFrom due) time
      else { s with now := time }
    | none => { s with now := time }

/-- The ticket of the next operation. -/
def nextTicket (s : DeskSimulation) : Ticket := toString s.tickets

/-- Begins an operation under the next ticket.  It takes its first turn at once; if its time is
limited to some milliseconds, they count from then on. -/
def beginNext (s : DeskSimulation) (operation : Operation) (timeout : Option Nat) :
    DeskSimulation :=
  let ticket := s.nextTicket
  let s := { s with tickets := s.tickets + 1 }.event (.begin ticket operation)
  let s := s.turn ticket
  match timeout with
  | some milliseconds =>
    let (s, time) := s.setTimer ticket (Timer.span milliseconds)
    { s with deadlines := s.deadlines.insert ticket time }.turn ticket
  | none => s

/-- Waits for one operation, which takes its turn before the others whenever time has passed,
and after them whenever they wake it.  The result is missing if its deadline came first. -/
def await : Nat → DeskSimulation → Ticket → List Ticket → DeskSimulation × Option Result
  | 0, s, ticket, _ => (s.drop ticket, none)
  | fuel + 1, s, ticket, queue =>
    let s := (s.turn ticket).settleFrom (queue.filter (· != ticket))
    if ¬s.isUnderWay ticket then (s, s.result? ticket)
    else if s.canGoOn ticket then await fuel s ticket []
    else
      match s.nextTime? with
      | some time =>
        let (s, due) := s.wakeAt time
        await fuel s ticket due
      | none => ((s.drop ticket).settleDown, none)

/-- How often one operation can be waited for anew: every attempt of every task sets two timers
at most, every task has at most one deadline, and its end may wake the operation. -/
def awaitFuel (s : DeskSimulation) : Nat :=
  (2 * s.desk.retry.attempts + 4) * (s.running.length + 2)

/-- Runs one operation to its end, or drops it after some milliseconds. -/
def runOperation (s : DeskSimulation) (operation : Operation) (timeout : Option Nat) :
    DeskSimulation × Option Result :=
  let ticket := s.nextTicket
  let s := s.beginNext operation timeout
  await s.awaitFuel s ticket []

/-- Starts a task and lets it run until it has to wait; it may be dropped after some
milliseconds. -/
def startTask (s : DeskSimulation) (task : String) (operation : Operation)
    (timeout : Option Nat) : DeskSimulation :=
  let s := { s with running := s.running ++ [(task, s.nextTicket)] }
  (s.beginNext operation timeout).settleDown

/-- Starts a task whose order cannot be read. -/
def startUnreadable (s : DeskSimulation) (task : String) : DeskSimulation :=
  { s with ended := s.ended ++ [(task, .unreadable)] }

/-- Drops a task: whether it was still running. -/
def abort (s : DeskSimulation) (task : String) : DeskSimulation × Bool :=
  match s.running.find? fun t => t.1 == task with
  | some (_, ticket) => ((s.endTask ticket .aborted).settleDown, true)
  | none => (s, false)

/-- Adds a permit to a gate, which goes to the call that has waited longest. -/
def release (s : DeskSimulation) (name : String) : DeskSimulation :=
  let g := s.gate name
  match g.waiting with
  | [] => { s with gates := s.gates.insert name { g with permits := g.permits + 1 } }
  | ticket :: waiting =>
    let flights := match s.flights.get? ticket with
      | some (.held _ reply) => s.flights.insert ticket (.landed reply)
      | _ => s.flights
    { s with gates := s.gates.insert name { g with waiting }, flights }.settleDown

/-- Lets some milliseconds pass. -/
def wait (s : DeskSimulation) (milliseconds : Nat) : DeskSimulation :=
  let span := Timer.span milliseconds
  passTo (span + 1) s (s.now + span)

/-- Cancels the desk's token. -/
def cancelToken (s : DeskSimulation) : DeskSimulation := (s.event .cancel).settleDown

/-- Replaces a cached response from outside. -/
def update (s : DeskSimulation) (id : ClientId) (response : Payload) : DeskSimulation :=
  (s.event (.update id response)).settleDown

/-- Adds entries to the script of the venue. -/
def script (s : DeskSimulation) (submit cancel openOrders : List ScriptEntry) : DeskSimulation :=
  { s with venue := { s.venue with
      submit := s.venue.submit ++ submit
      cancel := s.venue.cancel ++ cancel
      openOrders := s.venue.openOrders ++ openOrders } }

/-- The number of permits left. -/
def remaining (s : DeskSimulation) : Nat := (s.desk.limiter.remaining s.desk.clock).2

/-- Forgets what has happened since the last step. -/
def forget (s : DeskSimulation) : DeskSimulation :=
  { s with calls := [], slept := [], ended := [] }

end DeskSimulation

end OrderDesk
