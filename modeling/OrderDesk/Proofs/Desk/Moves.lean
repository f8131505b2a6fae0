import OrderDesk.Desk.Step
import OrderDesk.Proofs.Retry.Moves

/-!
# The moves of a desk

What an event can do at a desk, as a relation: `Move d e p` has one constructor for each way in
which an operation gets on, with what the desk and its surroundings must be like for it, and
`step_move` says that every step is a move.  Statements about all events at a desk are proved by
cases on the move.
-/

namespace OrderDesk

namespace Desk

/-- The operation is turned down when it begins: the number of ids generated by then, and the
reason. -/
inductive Rejects (d : Desk) : Operation → UInt64 → Failure → Prop where
  | incomplete {order : Order} (clientId : Option ClientId) (missing : order.isComplete = false) :
      Rejects d (.submit order clientId) d.sequence (.fatal (.invalidOrder
        (.incomplete order.side order.orderType order.quantity order.symbol)))
  | unbuilt {order : Order} {clientId : Option ClientId} {failure : Failure}
      (complete : order.isComplete = true)
      (request : d.venue.buildRequest (d.resolveId clientId).2 order = .error failure) :
      Rejects d (.submit order clientId) (d.resolveId clientId).1.sequence failure
  | unknown {id : ClientId} (cached : d.cache.get? id = none) :
      Rejects d (.cancel id) d.sequence (.fatal (.unknownClientId id))
  | untargeted {id : ClientId} {response : Payload} {failure : Failure}
      (cached : d.cache.get? id = some response)
      (target : d.venue.cancelTarget id response = .error failure) :
      Rejects d (.cancel id) d.sequence failure

/-- In the event the retries of a task get on without a success and without a call to the venue:
the limiter after it, what is shown of the permit, and the step of the retries. -/
inductive Retries (d : Desk) (t : Ticket) (task : Task) :
    DeskEvent → RateLimiter → List DeskEffect → RetryStep Empty → Prop where
  /-- The operation is cancelled before an attempt. -/
  | stopped {n : Nat} (word : UInt64) (stage : task.stage? = some (.ready n))
      (cancelled : d.isCancelled = true) :
      Retries d t task (.resume t word) d.limiter [] (.finish (.error .cancelled))
  /-- The attempt gets no permit. -/
  | refused {n : Nat} {limiter : RateLimiter} (word : UInt64)
      (stage : task.stage? = some (.ready n)) (running : d.isCancelled = false)
      (permit : d.limiter.acquire d.clock = (limiter, false)) :
      Retries d t task (.resume t word) limiter [.refused t d.clock]
        (RetryStage.afterFailure d.retry d.isCancelled word n { d with limiter }.refusal)
  /-- The call to the venue fails. -/
  | failed {n : Nat} (failure : TransportFailure) (word : UInt64)
      (stage : task.stage? = some (.running n)) :
      Retries d t task (.failed t failure word) d.limiter []
        (RetryStage.afterFailure d.retry d.isCancelled word n
          (AttemptError.judge d.venue (.raw failure)))
  | rested {n : Nat} {delay : Duration} (stage : task.stage? = some (.pausing n delay)) :
      Retries d t task (.paused t) d.limiter [] (.goOn (.ready n))
  | interrupted {n : Nat} {delay : Duration} (stage : task.stage? = some (.pausing n delay))
      (cancelled : d.isCancelled = true) :
      Retries d t task (.interrupted t) d.limiter [] (.finish (.error .cancelled))

/-- Only a task that calls the venue retries. -/
theorem Retries.exists_stage {d : Desk} {t : Ticket} {task : Task} {e : DeskEvent}
    {limiter : RateLimiter} {shown : List DeskEffect} {next : RetryStep Empty}
    (h : d.Retries t task e limiter shown next) :
  ∃ stage, task.stage? = some stage
  := by
  cases h with
  | stopped word stage cancelled => exact ⟨_, stage⟩
  | refused word stage running permit => exact ⟨_, stage⟩
  | failed failure word stage => exact ⟨_, stage⟩
  | rested stage => exact ⟨_, stage⟩
  | interrupted stage cancelled => exact ⟨_, stage⟩

/-- The desk after an event, with what the event shows. -/
inductive Move (d : Desk) : DeskEvent → Desk × List DeskEffect → Prop where
  /-- The event fits no task. -/
  | rest (e : DeskEvent) : Move d e (d, [])
  /-- An operation is turned down. -/
  | reject {t : Ticket} {operation : Operation} {sequence : UInt64} {failure : Failure}
      (fresh : d.task? t = none) (unasked : d.shared.call? t = none)
      (rejects : d.Rejects operation sequence failure) :
      Move d (.begin t operation) ({ d with sequence }.finish t (.error failure))
  /-- A submission asks the cache for its id. -/
  | submit {t : Ticket} {order : Order} {clientId : Option ClientId} {request : Payload}
      (fresh : d.task? t = none) (unasked : d.shared.call? t = none)
      (complete : order.isComplete = true)
      (built : d.venue.buildRequest (d.resolveId clientId).2 order = .ok request) :
      Move d (.begin t (.submit order clientId))
        ({ d with
          shared := d.shared.remember t (d.resolveId clientId).2 request
          sequence := (d.resolveId clientId).1.sequence }.followCall t
            (d.resolveId clientId).2 request)
  /-- A cancel of a cached order has its target. -/
  | cancelOrder {t : Ticket} {id : ClientId} {response : Payload} {target : CancelTarget}
      (fresh : d.task? t = none) (unasked : d.shared.call? t = none)
      (cached : d.cache.get? id = some response)
      (named : d.venue.cancelTarget id response = .ok target) :
      Move d (.begin t (.cancel id)) (d.setTask t (.cancelling id target .start), [])
  | reconcile {t : Ticket} (fresh : d.task? t = none) (unasked : d.shared.call? t = none) :
      Move d (.begin t .reconcile) (d.setTask t (.reconciling .start), [])
  /-- A task gets a permit and calls the venue. -/
  | call {t : Ticket} {task : Task} {n : Nat} {call : VenueCall} {limiter : RateLimiter}
      (word : UInt64) (htask : d.task? t = some task) (stage : task.stage? = some (.ready n))
      (made : task.venueCall? = some call) (running : d.isCancelled = false)
      (permit : d.limiter.acquire d.clock = (limiter, true)) :
      Move d (.resume t word) ({ d with limiter }.setTask t (task.atStage (.running n)),
        [.admitted t d.clock, .called t call])
  /-- The retries of a task get on otherwise. -/
  | retry {t : Ticket} {task : Task} {e : DeskEvent} {limiter : RateLimiter}
      {shown : List DeskEffect} {next : RetryStep Empty} (htask : d.task? t = some task)
      (retries : d.Retries t task e limiter shown next) :
      Move d e (({ d with limiter }.follow t task next).1,
        shown ++ ({ d with limiter }.follow t task next).2)
  /-- The venue accepts an order. -/
  | accept {t : Ticket} {id : ClientId} {request : Payload} {n : Nat} (response : Payload)
      (htask : d.task? t = some (.submitting id request (.running n))) :
      Move d (.accepted t response) (d.settleSubmitted t id request (.ok response))
  | acknowledge {t : Ticket} {id : ClientId} {target : CancelTarget} {n : Nat}
      (raw : Option Payload) (htask : d.task? t = some (.cancelling id target (.running n))) :
      Move d (.acknowledged t raw) (d.acknowledge t id target raw)
  | list {t : Ticket} {n : Nat} (orders : List Payload)
      (htask : d.task? t = some (.reconciling (.running n))) :
      Move d (.listed t orders) (d.setTask t (.comparing orders), [])
  | compare {t : Ticket} {orders : List Payload} (htask : d.task? t = some (.comparing orders)) :
      Move d (.compare t) (d.report t orders)
  /-- A waiting submission looks at its channel. -/
  | wake {t : Ticket} {id : ClientId} {request : Payload}
      (htask : d.task? t = some (.waiting id request)) :
      Move d (.wake t) ({ d with shared := d.shared.wake t }.followCall t id request)
  /-- An operation that has not ended is dropped. -/
  | abort {t : Ticket} {task : Task} (htask : d.task? t = some task)
      (unfinished : ∀ result, task ≠ .finished result) :
      Move d (.abort t) (d.drop t)
  | cancel : Move d .cancel ({ d with token := d.token.map fun _ => true }, [])
  | advance (nanoseconds : Nat) :
      Move d (.advance nanoseconds) ({ d with clock := d.clock + nanoseconds }, [])
  | update (id : ClientId) (response : Payload) :
      Move d (.update id response) ({ d with shared := d.shared.update id response }, [])

/-! ### Attempts -/

section

variable {d : Desk} {limiter : RateLimiter}

theorem attempt_of_cancelled (cancelled : d.isCancelled = true) (t : Ticket) (task : Task)
    (call : VenueCall) (n : Nat) (word : UInt64) :
  d.attempt t task call n word = d.follow t task (.finish (.error .cancelled))
  := by
  rw [attempt, RetryStage.begin, if_pos cancelled]

theorem attempt_of_granted (running : d.isCancelled = false)
    (permit : d.limiter.acquire d.clock = (limiter, true)) (t : Ticket) (task : Task)
    (call : VenueCall) (n : Nat) (word : UInt64) :
  d.attempt t task call n word
    = ({ d with limiter }.setTask t (task.atStage (.running n)),
      [.admitted t d.clock, .called t call])
  := by
  rw [attempt, RetryStage.begin, if_neg (Bool.eq_false_iff.1 running), permit]
  rfl

theorem attempt_of_refused (running : d.isCancelled = false)
    (permit : d.limiter.acquire d.clock = (limiter, false)) (t : Ticket) (task : Task)
    (call : VenueCall) (n : Nat) (word : UInt64) :
  d.attempt t task call n word
    = (({ d with limiter }.follow t task (RetryStage.afterFailure d.retry d.isCancelled word n
        { d with limiter }.refusal)).1,
      .refused t d.clock :: ({ d with limiter }.follow t task
        (RetryStage.afterFailure d.retry d.isCancelled word n { d with limiter }.refusal)).2)
  := by
  rw [attempt, RetryStage.begin, if_neg (Bool.eq_false_iff.1 running), permit]
  rfl

end

/-- An attempt takes a permit and calls the venue, or the retries get on without a call. -/
theorem attempt_move {d : Desk} {t : Ticket} {task : Task} {call : VenueCall} {n : Nat}
    (htask : d.task? t = some task) (stage : task.stage? = some (.ready n))
    (made : task.venueCall? = some call) (word : UInt64) :
  d.Move (.resume t word) (d.attempt t task call n word)
  := by
  rcases cancelled : d.isCancelled
  · rcases permit : d.limiter.acquire d.clock with ⟨limiter, granted⟩
    cases granted with
    | true =>
      rw [attempt_of_granted cancelled permit]
      exact .call word htask stage made cancelled permit
    | false =>
      rw [attempt_of_refused cancelled permit]
      exact .retry htask (.refused word stage cancelled permit)
  · rw [attempt_of_cancelled cancelled]
    exact .retry htask (.stopped word stage cancelled)

/-- Finding the id of a submission changes nothing but the number of ids generated. -/
theorem resolveId_eq (d : Desk) (clientId : Option ClientId) :
  d.resolveId clientId
    = ({ d with sequence := (d.resolveId clientId).1.sequence }, (d.resolveId clientId).2)
  := by
  cases clientId with
  | none => rfl
  | some id => rfl

/-- A submission that begins is turned down or asks the cache for its id. -/
theorem submit_move {d : Desk} {t : Ticket} (fresh : d.task? t = none)
    (unasked : d.shared.call? t = none) (order : Order) (clientId : Option ClientId) :
  d.Move (.begin t (.submit order clientId)) (d.submit t order clientId)
  := by
  rw [submit]
  split
  next complete =>
    rw [resolveId_eq]
    rcases built : d.venue.buildRequest (d.resolveId clientId).2 order with failure | request
    · have m := Move.reject fresh unasked (.unbuilt complete built)
      simpa only [built] using m
    · have m := Move.submit fresh unasked complete built
      simpa only [built] using m
  next missing => exact .reject fresh unasked (.incomplete clientId (by simpa using missing))

/-- A submission of a complete order that can be put to the venue asks the cache for its id. -/
theorem step_submit {d : Desk} {t : Ticket} {order : Order} {clientId : Option ClientId}
    {request : Payload} (fresh : d.task? t = none) (unasked : d.shared.call? t = none)
    (complete : order.isComplete = true)
    (built : d.venue.buildRequest (d.resolveId clientId).2 order = .ok request) :
  d.step (.begin t (.submit order clientId))
    = { d with
        shared := d.shared.remember t (d.resolveId clientId).2 request
        sequence := (d.resolveId clientId).1.sequence }.followCall t (d.resolveId clientId).2
          request
  := by
  rw [step, begin, fresh, unasked]
  dsimp only
  rw [submit, if_pos complete, resolveId_eq]
  simp only [built]

/-- A cancel that begins is turned down or has its target. -/
theorem cancelOrder_move {d : Desk} {t : Ticket} (fresh : d.task? t = none)
    (unasked : d.shared.call? t = none) (id : ClientId) :
  d.Move (.begin t (.cancel id)) (d.cancelOrder t id)
  := by
  rw [cancelOrder]
  split
  next cached => exact .reject fresh unasked (.unknown cached)
  next response cached =>
    split
    next failure target => exact .reject fresh unasked (.untargeted cached target)
    next target named => exact .cancelOrder fresh unasked cached named

/-- Every step is a move. -/
theorem step_move (d : Desk) (e : DeskEvent) :
  d.Move e (d.step e)
  := by
  cases e with
  | begin t operation =>
    rw [step, begin.eq_def]
    split
    next fresh unasked =>
      cases operation with
      | submit order clientId => apply submit_move fresh unasked order clientId
      | cancel id => apply cancelOrder_move fresh unasked id
      | reconcile => exact .reconcile fresh unasked
    next => exact .rest _
  | resume t word =>
    rw [step]
    split
    next task htask =>
      split
      next n call stage made => apply attempt_move htask stage made word
      next => exact .rest _
    next => exact .rest _
  | accepted t response =>
    rw [step]
    split
    next id request n htask => exact .accept response htask
    next => exact .rest _
  | acknowledged t raw =>
    rw [step]
    split
    next id target n htask => exact .acknowledge raw htask
    next => exact .rest _
  | listed t orders =>
    rw [step]
    split
    next n htask => exact .list orders htask
    next => exact .rest _
  | compare t =>
    rw [step]
    split
    next orders htask => exact .compare htask
    next => exact .rest _
  | failed t failure word =>
    rw [step]
    split
    next task htask =>
      split
      next n stage => exact .retry htask (.failed failure word stage)
      next => exact .rest _
    next => exact .rest _
  | paused t =>
    rw [step]
    split
    next task htask =>
      split
      next n delay stage => exact .retry htask (.rested stage)
      next => exact .rest _
    next => exact .rest _
  | interrupted t =>
    rw [step]
    split
    next task htask =>
      split
      next n delay stage =>
        split
        next cancelled => exact .retry htask (.interrupted stage cancelled)
        next => exact .rest _
      next => exact .rest _
    next => exact .rest _
  | wake t =>
    rw [step]
    split
    next id request htask => exact .wake htask
    next => exact .rest _
  | abort t =>
    rw [step, abort]
    split
    next => exact .rest _
    next task unfinished htask => exact .abort htask unfinished
    next => exact .rest _
  | cancel => exact .cancel
  | advance nanoseconds => exact .advance nanoseconds
  | update id response => exact .update id response

/-! ### Runs -/

/-- The desk after a sequence of events. -/
def after (d : Desk) (events : List DeskEvent) : Desk := (d.steps events).1

/-- What has been shown before has no bearing on the desk. -/
theorem after_cons (d : Desk) (e : DeskEvent) (events : List DeskEvent) :
  d.after (e :: events) = (d.step e).1.after events
  := by
  have irrelevant (d : Desk) (shown shown' : List DeskEffect) :
      (events.foldl (fun p e => let q := p.1.step e; (q.1, p.2 ++ q.2)) (d, shown)).1
        = (events.foldl (fun p e => let q := p.1.step e; (q.1, p.2 ++ q.2)) (d, shown')).1 := by
    induction events generalizing d shown shown' with
    | nil => rfl
    | cons e events ih => apply ih _ _ _
  apply irrelevant _ _ _

theorem after_append (d : Desk) (events later : List DeskEvent) :
  d.after (events ++ later) = (d.after events).after later
  := by
  induction events generalizing d with
  | nil => rfl
  | cons e events ih => rw [List.cons_append, after_cons, after_cons, ih]

/-- What each event of a run preserves holds after the run. -/
theorem after_induction {motive : Desk → Prop} {events : List DeskEvent}
    (hstep : ∀ e ∈ events, ∀ d, motive d → motive (d.step e).1) {d : Desk} (h : motive d) :
  motive (d.after events)
  := by
  induction events generalizing d with
  | nil => exact h
  | cons e events ih =>
    rw [after_cons]
    apply ih
    · intro e' hmem
      exact hstep e' (List.mem_cons_of_mem e hmem)
    · exact hstep e List.mem_cons_self d h

end Desk

end OrderDesk
