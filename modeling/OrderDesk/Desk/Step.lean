import OrderDesk.Desk.Basic

/-!
# The steps of a desk

`Desk.step` is what happens at a desk in one event: an operation begins, carries on after the
venue, the timer or another operation let it, or is dropped.  Between two events nothing
happens; every interleaving of operations is a sequence of events.  A step also tells what it
showed to the outside: permits, calls to the venue, pauses and results.
-/

namespace OrderDesk

namespace Desk

/-- An operation ends with a result. -/
def finish (d : Desk) (ticket : Ticket) (result : Result) : Desk × List DeskEffect :=
  (d.setTask ticket (.finished result), [.finished ticket result])

/-- A submission returns what its id was resolved to: a response is annotated once more, since
a cancel may have replaced it in the meantime, and audited. -/
def returnSubmitted (d : Desk) (ticket : Ticket) (id : ClientId) (request : Payload)
    (outcome : Outcome) : Desk × List DeskEffect :=
  match outcome with
  | .ok response =>
    let response := d.venue.annotate id request response
    let audit := d.audit.append .submitOrder (d.venue.submitRecord id request) (.obj response)
    { d with audit }.finish ticket (.ok (.response response))
  | .error failure => d.finish ticket (.error failure)

/-- A submission goes on according to the phase of its call on the cache. -/
def followCall (d : Desk) (ticket : Ticket) (id : ClientId) (request : Payload) :
    Desk × List DeskEffect :=
  match d.shared.call? ticket with
  | some ⟨_, _, .waiting _⟩ => (d.setTask ticket (.waiting id request), [])
  | some ⟨_, _, .resolving⟩ => (d.setTask ticket (.submitting id request .start), [])
  | some ⟨_, _, .returned outcome⟩ => d.returnSubmitted ticket id request outcome
  | _ => (d, [])

/-- A submission that calls the venue has its outcome: it is published to the cache, a response
with the client id in it, and returned. -/
def settleSubmitted (d : Desk) (ticket : Ticket) (id : ClientId) (request : Payload)
    (outcome : Outcome) : Desk × List DeskEffect :=
  let outcome := outcome.map (d.venue.annotate id request)
  { d with shared := d.shared.settle ticket outcome }.returnSubmitted ticket id request outcome

/-- A cancel has been acknowledged: its response replaces the cached one and is audited. -/
def acknowledge (d : Desk) (ticket : Ticket) (id : ClientId) (target : CancelTarget)
    (raw : Option Payload) : Desk × List DeskEffect :=
  let response := d.venue.cancelResponse target raw
  let shared := d.shared.update id response
  let audit := d.audit.append .cancelOrder (d.venue.cancelRecord target) (.obj response)
  { d with shared, audit }.finish ticket (.ok (.response response))

/-- A reconciliation compares the cached ids with the tokens of the listed orders. -/
def report (d : Desk) (ticket : Ticket) (orders : List Payload) : Desk × List DeskEffect :=
  let report := Reconciliation.diff (d.cache.keys.map ClientId.text)
    (orders.filterMap d.venue.token?)
  let audit := d.audit.append .reconcile .empty report.toValue
  { d with audit }.finish ticket (.ok (.report report))

/-- The retries of a task have ended with a failure.  A reconciliation then goes on with an empty
listing, unless it was cancelled. -/
def giveUp (d : Desk) (ticket : Ticket) (task : Task) (failure : Failure) :
    Desk × List DeskEffect :=
  match task with
  | .submitting id request _ => d.settleSubmitted ticket id request (.error failure)
  | .cancelling _ _ _ => d.finish ticket (.error failure)
  | .reconciling _ =>
    if failure = .cancelled then d.finish ticket (.error failure)
    else (d.setTask ticket (.comparing []), [])
  | _ => (d, [])

/-- A task comes to a sudden end; an id that it was resolving is free again. -/
def drop (d : Desk) (ticket : Ticket) : Desk × List DeskEffect :=
  ({ d with shared := d.shared.abort ticket }.setTask ticket .dropped, [])

/-- A task goes on after a step of its retries that has not brought a success.  One that crashes
is dropped. -/
def follow (d : Desk) (ticket : Ticket) (task : Task) (next : RetryStep Empty) :
    Desk × List DeskEffect :=
  match next with
  | .finish (.error failure) => d.giveUp ticket task failure
  | .crash => d.drop ticket
  | .goOn (.pausing attempt delay) =>
    (d.setTask ticket (task.atStage (.pausing attempt delay)), [.paused ticket delay])
  | .goOn stage => (d.setTask ticket (task.atStage stage), [])

/-- The failure of an attempt that got no permit. -/
def refusal (d : Desk) : Failure := .retryable (.rateLimitExceeded d.limiter.limit)

/-- A task makes its next attempt: it asks for a permit and, if there is one, calls the venue
at once.  An attempt without a permit has failed. -/
def attempt (d : Desk) (ticket : Ticket) (task : Task) (call : VenueCall) (attempt : Nat)
    (word : UInt64) : Desk × List DeskEffect :=
  match (RetryStage.begin d.isCancelled attempt : RetryStep Empty) with
  | .goOn (.running attempt) =>
    let asked := d.limiter.acquire d.clock
    let d := { d with limiter := asked.1 }
    if asked.2 then
      (d.setTask ticket (task.atStage (.running attempt)),
        [.admitted ticket d.clock, .called ticket call])
    else
      let (d', effects) := d.follow ticket task
        (RetryStage.afterFailure d.retry d.isCancelled word attempt d.refusal)
      (d', .refused ticket d.clock :: effects)
  | next => d.follow ticket task next

/-- The client id of a submission: the given one, or the next one generated. -/
def resolveId (d : Desk) : Option ClientId → Desk × ClientId
  | some id => (d, id)
  | none => ({ d with sequence := d.sequence + 1 }, .generated d.venue.name (d.sequence + 1))

/-- A submission begins: an order that is not complete is refused before it has an id, and one
with a reserved extra before the cache is asked. -/
def submit (d : Desk) (ticket : Ticket) (order : Order) (clientId : Option ClientId) :
    Desk × List DeskEffect :=
  if order.isComplete then
    let (d, id) := d.resolveId clientId
    match d.venue.buildRequest id order with
    | .error failure => d.finish ticket (.error failure)
    | .ok request =>
      { d with shared := d.shared.remember ticket id request }.followCall ticket id request
  else
    d.finish ticket (.error (.fatal (.invalidOrder
      (.incomplete order.side order.orderType order.quantity order.symbol))))

/-- A cancel begins: the order must be cached, and its response must name a target. -/
def cancelOrder (d : Desk) (ticket : Ticket) (id : ClientId) : Desk × List DeskEffect :=
  match d.cache.get? id with
  | none => d.finish ticket (.error (.fatal (.unknownClientId id)))
  | some cached =>
    match d.venue.cancelTarget id cached with
    | .error failure => d.finish ticket (.error failure)
    | .ok target => (d.setTask ticket (.cancelling id target .start), [])

/-- An operation begins; a ticket that is in use is not given again. -/
def begin (d : Desk) (ticket : Ticket) (operation : Operation) : Desk × List DeskEffect :=
  match d.task? ticket, d.shared.call? ticket with
  | none, none =>
    match operation with
    | .submit order clientId => d.submit ticket order clientId
    | .cancel id => d.cancelOrder ticket id
    | .reconcile => (d.setTask ticket (.reconciling .start), [])
  | _, _ => (d, [])

/-- An operation is dropped, unless it has ended. -/
def abort (d : Desk) (ticket : Ticket) : Desk × List DeskEffect :=
  match d.task? ticket with
  | some (.finished _) => (d, [])
  | some _ => d.drop ticket
  | none => (d, [])

/-- The desk after an event and what the event showed to the outside; an event that fits no
task changes nothing. -/
def step (d : Desk) : DeskEvent → Desk × List DeskEffect
  | .begin ticket operation => d.begin ticket operation
  | .resume ticket word =>
    match d.task? ticket with
    | some task =>
      match task.stage?, task.venueCall? with
      | some (.ready attempt), some call => d.attempt ticket task call attempt word
      | _, _ => (d, [])
    | none => (d, [])
  | .accepted ticket response =>
    match d.task? ticket with
    | some (.submitting id request (.running _)) =>
      d.settleSubmitted ticket id request (.ok response)
    | _ => (d, [])
  | .acknowledged ticket raw =>
    match d.task? ticket with
    | some (.cancelling id target (.running _)) => d.acknowledge ticket id target raw
    | _ => (d, [])
  | .listed ticket orders =>
    match d.task? ticket with
    | some (.reconciling (.running _)) => (d.setTask ticket (.comparing orders), [])
    | _ => (d, [])
  | .compare ticket =>
    match d.task? ticket with
    | some (.comparing orders) => d.report ticket orders
    | _ => (d, [])
  | .failed ticket failure word =>
    match d.task? ticket with
    | some task =>
      match task.stage? with
      | some (.running attempt) =>
        d.follow ticket task (RetryStage.afterFailure d.retry d.isCancelled word attempt
          (AttemptError.judge d.venue (.raw failure)))
      | _ => (d, [])
    | none => (d, [])
  | .paused ticket =>
    match d.task? ticket with
    | some task =>
      match task.stage? with
      | some (.pausing attempt _) => (d.setTask ticket (task.atStage (.ready attempt)), [])
      | _ => (d, [])
    | none => (d, [])
  | .interrupted ticket =>
    match d.task? ticket with
    | some task =>
      match task.stage? with
      | some (.pausing _ _) =>
        if d.isCancelled then d.giveUp ticket task .cancelled else (d, [])
      | _ => (d, [])
    | none => (d, [])
  | .wake ticket =>
    match d.task? ticket with
    | some (.waiting id request) =>
      { d with shared := d.shared.wake ticket }.followCall ticket id request
    | _ => (d, [])
  | .abort ticket => d.abort ticket
  | .cancel => ({ d with token := d.token.map fun _ => true }, [])
  | .advance nanoseconds => ({ d with clock := d.clock + nanoseconds }, [])
  | .update id response => ({ d with shared := d.shared.update id response }, [])

/-- The desk after a sequence of events and what they showed to the outside, in order. -/
def steps (d : Desk) (events : List DeskEvent) : Desk × List DeskEffect :=
  events.foldl (fun p e => let q := p.1.step e; (q.1, p.2 ++ q.2)) (d, [])

end Desk

end OrderDesk
