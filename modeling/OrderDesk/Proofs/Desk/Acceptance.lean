import OrderDesk.Proofs.Cache.Names
import OrderDesk.Proofs.Cache.Permanence
import OrderDesk.Proofs.Desk.Tasks

/-!
# Orders are accepted at most once

Whatever happens at a desk, no two calls that submit an order under one client id are ever under
way at the venue at the same time, and once one of them has been accepted, no other is made.  A
task that calls the venue for an id is the one whose call on the cache resolves the id; there is
at most one such call, and none once the id is resolved, which it then is for good.
-/

namespace OrderDesk

namespace Desk

variable {d : Desk} {t u : Ticket} {id : ClientId} {request : Payload}

/-- A call of the task that submits an order under the id is under way at the venue. -/
def InFlight (d : Desk) (t : Ticket) (id : ClientId) : Prop :=
  ∃ request n, d.task? t = some (.submitting id request (.running n))

/-- In the event the task calls the venue to submit an order under the id. -/
def Calls (d : Desk) (e : DeskEvent) (t : Ticket) (id : ClientId) : Prop :=
  ∃ request stage, d.task? t = some (.submitting id request stage)
    ∧ .called t (.submit request) ∈ (d.step e).2

/-- In the event the call under way that submits the order of the task is accepted. -/
def Accepts (d : Desk) (e : DeskEvent) (t : Ticket) (id : ClientId) : Prop :=
  d.InFlight t id ∧ ∃ response, e = .accepted t response

/-! ### The cache of a desk -/

theorem Ends.shared_eq {p : Desk × List DeskEffect} (h : d.Ends t p) :
  p.1.shared = d.shared
  := by
  obtain ⟨audit, result, rfl⟩ := h
  rfl

theorem shared_followCall (d : Desk) (t : Ticket) (id : ClientId) (request : Payload) :
  (d.followCall t id request).1.shared = d.shared
  := by
  rw [followCall]
  split
  · rfl
  · rfl
  next outcome hcall => exact (d.returnSubmitted_ends t id request outcome).shared_eq
  · rfl

/-- What an event at a desk is for its cache. -/
inductive Touches (d : Desk) : DeskEvent → CacheEvent → Prop where
  /-- A submission asks for its id. -/
  | asks {t : Ticket} {order : Order} {clientId : Option ClientId} {request : Payload}
      (fresh : d.task? t = none) (unasked : d.shared.call? t = none)
      (complete : order.isComplete = true)
      (built : d.venue.buildRequest (d.resolveId clientId).2 order = .ok request) :
      Touches d (.begin t (.submit order clientId))
        (.remember t (d.resolveId clientId).2 request)
  /-- A submission gets on or ends without a response. -/
  | quiet (e : DeskEvent) {e' : CacheEvent} (quiet : e'.IsQuiet) (nameless : e'.id? = none) :
      Touches d e e'
  | accepts {t : Ticket} {id : ClientId} {request : Payload} {n : Nat} (response : Payload)
      (htask : d.task? t = some (.submitting id request (.running n))) :
      Touches d (.accepted t response) (.settle t (.ok (d.venue.annotate id request response)))
  | acknowledges {t : Ticket} {id : ClientId} {target : CancelTarget} {n : Nat}
      (raw : Option Payload) (htask : d.task? t = some (.cancelling id target (.running n))) :
      Touches d (.acknowledged t raw) (.update id (d.venue.cancelResponse target raw))
  | updates (id : ClientId) (response : Payload) :
      Touches d (.update id response) (.update id response)

/-- A step of a desk is at most one event for its cache. -/
theorem shared_step (d : Desk) (e : DeskEvent) :
  (d.step e).1.shared = d.shared
    ∨ ∃ e', d.Touches e e' ∧ (d.step e).1.shared = d.shared.step e'
  := by
  have m := d.step_move e
  generalize d.step e = p at m
  cases m with
  | rest => exact .inl rfl
  | reject => exact .inl rfl
  | @submit t order clientId request fresh unasked complete built =>
    right
    use .remember t (d.resolveId clientId).2 request, .asks fresh unasked complete built
    apply shared_followCall
  | cancelOrder => exact .inl rfl
  | reconcile => exact .inl rfl
  | call => exact .inl rfl
  | @retry t task e limiter shown next htask retries =>
    obtain ⟨stage, hstage⟩ := retries.exists_stage
    cases next with
    | finish result =>
      cases result with
      | ok a => exact a.elim
      | error failure =>
        obtain ⟨id, request, rfl, hends⟩ | ⟨-, hends⟩ | ⟨-, heq⟩ :=
          { d with limiter }.giveUp_cases t hstage failure
        · right
          use .settle t (.error failure), .quiet e trivial rfl
          exact hends.shared_eq
        · left
          exact hends.shared_eq
        · left
          rw [follow, heq]
          rfl
    | crash =>
      right
      use .abort t, .quiet e trivial rfl
      rfl
    | goOn stage' =>
      left
      rw [follow_goOn]
      rfl
  | @accept t id request n response htask =>
    right
    use .settle t (.ok (d.venue.annotate id request response)), .accepts response htask
    exact (d.settleSubmitted_ends t id request (.ok response)).shared_eq
  | @acknowledge t id target n raw htask =>
    right
    use .update id (d.venue.cancelResponse target raw), .acknowledges raw htask
    exact (d.acknowledge_ends t id target raw).shared_eq
  | list => exact .inl rfl
  | compare => exact .inl rfl
  | @wake t id request =>
    right
    use .wake t, .quiet _ trivial rfl
    apply shared_followCall
  | @abort t =>
    right
    use .abort t, .quiet _ trivial rfl
    rfl
  | cancel => exact .inl rfl
  | advance => exact .inl rfl
  | update id response =>
    right
    use .update id response, .updates id response
    rfl

/-- The id is resolved in the cache of the desk. -/
def IsResolved (d : Desk) (id : ClientId) : Prop :=
  ∃ entry, d.shared.cache.slot? id = some (.resolved entry)

/-- A resolved id keeps its entry in every event, up to the response. -/
theorem slot?_step_of_resolved (hd : d.Coupled) {entry : CacheEntry}
    (slot : d.shared.cache.slot? id = some (.resolved entry)) (e : DeskEvent) :
  ∃ response, (d.step e).1.shared.cache.slot? id = some (.resolved { entry with response })
  := by
  obtain hshared | ⟨e', -, hshared⟩ := d.shared_step e
  · use entry.response
    rw [hshared]
    exact slot
  · rw [hshared]
    apply hd.sound.step_of_resolved slot e'

theorem IsResolved.step (h : d.IsResolved id) (hd : d.Coupled) (e : DeskEvent) :
  (d.step e).1.IsResolved id
  := by
  obtain ⟨entry, slot⟩ := h
  obtain ⟨response, hslot⟩ := slot?_step_of_resolved hd slot e
  exact ⟨_, hslot⟩

/-- A resolved id stays so. -/
theorem IsResolved.after (h : d.IsResolved id) (hd : d.Coupled) (events : List DeskEvent) :
  (d.after events).IsResolved id
  := by
  induction events generalizing d with
  | nil => exact h
  | cons e events ih =>
    rw [after_cons]
    apply ih (h.step hd e) (hd.step e)

/-- No task submits an order under a resolved id. -/
theorem IsResolved.not_submitting (h : d.IsResolved id) (hd : d.Coupled) {stage : RetryStage} :
  d.task? t ≠ some (.submitting id request stage)
  := by
  intro htask
  obtain ⟨entry, slot⟩ := h
  have hslot := hd.sound.slot (hd.call_of_submitting htask)
  rw [slot] at hslot
  cases hslot

/-- An accepted order resolves its id. -/
theorem Accepts.isResolved {e : DeskEvent} (h : d.Accepts e t id) (hd : d.Coupled) :
  (d.step e).1.IsResolved id
  := by
  obtain ⟨⟨request, n, htask⟩, response, rfl⟩ := h
  let annotated := d.venue.annotate id request response
  have hstep : d.step (.accepted t response) = d.settleSubmitted t id request (.ok response) := by
    rw [step, htask]
  have hshared : (d.step (.accepted t response)).1.shared
      = d.shared.step (.settle t (.ok annotated)) := by
    rw [hstep]
    exact (d.settleSubmitted_ends t id request (.ok response)).shared_eq
  use ⟨.of request, annotated⟩
  rw [hshared]
  apply hd.sound.step_of_enters
  exact .accepted annotated (hd.call_of_submitting htask)

/-! ### Calls to the venue -/

theorem Ends.not_called {p : Desk × List DeskEffect} (h : d.Ends t p) (call : VenueCall) :
  .called u call ∉ p.2
  := by
  obtain ⟨audit, result, rfl⟩ := h
  simp

theorem not_called_followCall (d : Desk) (t : Ticket) (id : ClientId) (request : Payload)
    (call : VenueCall) :
  .called u call ∉ (d.followCall t id request).2
  := by
  rw [followCall]
  split
  · simp
  · simp
  next outcome hcall => exact (d.returnSubmitted_ends t id request outcome).not_called call
  · simp

theorem not_called_follow (d : Desk) (t : Ticket) {task : Task} {stage : RetryStage}
    (hstage : task.stage? = some stage) (next : RetryStep Empty) (call : VenueCall) :
  .called u call ∉ (d.follow t task next).2
  := by
  cases next with
  | finish result =>
    cases result with
    | ok a => exact a.elim
    | error failure =>
      obtain ⟨id, request, rfl, hends⟩ | ⟨-, hends⟩ | ⟨-, heq⟩ := d.giveUp_cases t hstage failure
      · apply hends.not_called call
      · apply hends.not_called call
      · rw [follow, heq]
        exact List.not_mem_nil
  | crash => exact List.not_mem_nil
  | goOn stage' =>
    cases stage' with
    | ready => simp [follow]
    | running => simp [follow]
    | pausing => simp [follow]

theorem Retries.not_called {task : Task} {e : DeskEvent} {limiter : RateLimiter}
    {shown : List DeskEffect} {next : RetryStep Empty}
    (h : d.Retries t task e limiter shown next) (call : VenueCall) :
  .called u call ∉ shown
  := by
  cases h with
  | stopped => simp
  | refused => simp
  | failed => simp
  | rested => simp
  | interrupted => simp

/-- A call to the venue is made when a task with an attempt ahead goes on and gets a permit: the
whole of the step. -/
theorem step_of_called {e : DeskEvent} {call : VenueCall} (h : .called t call ∈ (d.step e).2) :
  ∃ task n word limiter, e = .resume t word ∧ d.task? t = some task
    ∧ task.stage? = some (.ready n) ∧ task.venueCall? = some call ∧ d.isCancelled = false
    ∧ d.limiter.acquire d.clock = (limiter, true)
    ∧ d.step e = ({ d with limiter }.setTask t (task.atStage (.running n)),
      [.admitted t d.clock, .called t call])
  := by
  have m := d.step_move e
  generalize d.step e = p at m h
  cases m with
  | rest => cases h
  | reject => exact absurd h (Ends.not_called (finish_ends _ _ _) call)
  | submit => exact absurd h (not_called_followCall _ _ _ _ call)
  | cancelOrder => cases h
  | reconcile => cases h
  | @call u task n made' limiter word htask stage made running permit =>
    obtain ⟨rfl, rfl⟩ : t = u ∧ call = made' := by simpa using h
    exact ⟨task, n, word, limiter, rfl, htask, stage, made, running, permit, rfl⟩
  | @retry u task _ limiter shown next htask retries =>
    obtain ⟨stage, hstage⟩ := retries.exists_stage
    obtain h | h := List.mem_append.1 h
    · exact absurd h (retries.not_called call)
    · exact absurd h (not_called_follow _ u hstage next call)
  | accept => exact absurd h (Ends.not_called (settleSubmitted_ends _ _ _ _ _) call)
  | acknowledge => exact absurd h (Ends.not_called (acknowledge_ends _ _ _ _ _) call)
  | list => cases h
  | compare => exact absurd h (Ends.not_called (report_ends _ _ _) call)
  | wake => exact absurd h (not_called_followCall _ _ _ _ call)
  | abort => cases h
  | cancel => cases h
  | advance => cases h
  | update => cases h

/-- A call to the venue is made by a task with an attempt ahead, which then is under way. -/
theorem task?_of_called {e : DeskEvent} {call : VenueCall} (h : .called t call ∈ (d.step e).2) :
  ∃ task n, d.task? t = some task ∧ task.stage? = some (.ready n)
    ∧ task.venueCall? = some call ∧ (d.step e).1.task? t = some (task.atStage (.running n))
  := by
  obtain ⟨task, n, word, limiter, -, htask, stage, made, -, -, hstep⟩ := step_of_called h
  exact ⟨task, n, htask, stage, made, by simp [hstep]⟩

/-- What a task calls the venue for tells what kind of task it is. -/
theorem venueCall?_cases {task : Task} {stage : RetryStage} {call : VenueCall}
    (hstage : task.stage? = some stage) (made : task.venueCall? = some call) :
  (∃ id request, task = .submitting id request stage ∧ call = .submit request)
  ∨ (∃ id target, task = .cancelling id target stage ∧ call = .cancel target)
  ∨ task = .reconciling stage ∧ call = .openOrders
  := by
  cases task with
  | submitting id request stage' =>
    cases hstage
    cases made
    exact .inl ⟨id, request, rfl, rfl⟩
  | cancelling id target stage' =>
    cases hstage
    cases made
    exact .inr (.inl ⟨id, target, rfl, rfl⟩)
  | reconciling stage' =>
    cases hstage
    cases made
    exact .inr (.inr ⟨rfl, rfl⟩)
  | comparing => cases made
  | waiting => cases made
  | finished => cases made
  | dropped => cases made

theorem submitting_of_venueCall? {task : Task} {stage : RetryStage}
    (hstage : task.stage? = some stage) (made : task.venueCall? = some (.submit request)) :
  ∃ id, task = .submitting id request stage
  := by
  obtain ⟨id, _, rfl, ⟨⟩⟩ | ⟨_, _, -, ⟨⟩⟩ | ⟨-, ⟨⟩⟩ := venueCall?_cases hstage made
  exact ⟨id, rfl⟩

theorem cancelling_of_venueCall? {task : Task} {stage : RetryStage} {target : CancelTarget}
    (hstage : task.stage? = some stage) (made : task.venueCall? = some (.cancel target)) :
  ∃ id, task = .cancelling id target stage
  := by
  obtain ⟨_, _, -, ⟨⟩⟩ | ⟨id, _, rfl, ⟨⟩⟩ | ⟨-, ⟨⟩⟩ := venueCall?_cases hstage made
  exact ⟨id, rfl⟩

/-! ### Calls in flight -/

/-- A call in flight was in flight before the event, or is made in it. -/
theorem InFlight.of_step {e : DeskEvent} (h : (d.step e).1.InFlight t id) :
  d.InFlight t id ∨ d.Calls e t id
  := by
  obtain ⟨request, n, hafter⟩ := h
  obtain hsame | ⟨task, htask, turn⟩ := d.turns_step e t
  · rw [hsame] at hafter
    exact .inl ⟨request, n, hafter⟩
  · rw [hafter] at htask
    obtain ⟨rfl⟩ : Task.submitting id request (.running n) = task := Option.some.inj htask
    generalize heq : Task.submitting id request (.running n) = task at turn
    cases turn with
    | calls word htask stage made shown =>
      right
      cases Task.eq_atStage stage heq
      cases made
      exact ⟨request, _, htask, shown⟩
    | @goesOn _ _ task stage next htask hstage silent =>
      cases Task.eq_atStage hstage heq
      cases heq
      exact absurd rfl (silent n)
    | ends => cases heq
    | leaves => cases heq
    | crashes => cases heq
    | compares => cases heq
    | waits => cases heq
    | resolves => cases heq
    | cancels => cases heq
    | reconciles => cases heq

/-- A submit call is made exactly in the events in which it comes to be in flight. -/
theorem calls_iff {e : DeskEvent} :
  d.Calls e t id ↔ ¬d.InFlight t id ∧ (d.step e).1.InFlight t id
  := by
  constructor
  · rintro ⟨request, stage, htask, hcalled⟩
    obtain ⟨task, n, htask', hstage, made, hafter⟩ := task?_of_called hcalled
    rw [htask] at htask'
    cases htask'
    cases hstage
    constructor
    · rintro ⟨request', n', hrunning⟩
      rw [htask] at hrunning
      cases hrunning
    · exact ⟨request, n, hafter⟩
  · rintro ⟨hbefore, hafter⟩
    obtain h | h := hafter.of_step
    · exact absurd h hbefore
    · exact h

/-! ### At most one acceptance -/

/-- Two calls in flight under one id are one call. -/
theorem InFlight.unique (ht : d.InFlight t id) (hu : d.InFlight u id) (hd : d.Coupled) :
  t = u
  := by
  obtain ⟨request, n, htask⟩ := ht
  obtain ⟨request', n', htask'⟩ := hu
  apply hd.sound.resolves_unique
  · exact ⟨request, hd.call_of_submitting htask⟩
  · exact ⟨request', hd.call_of_submitting htask'⟩

/-- Orders are accepted at most once.  In every state that a run of events at a desk leads to, a
call that submits an order is made by a task for an id, exactly when it comes to be in flight; at
most one call is in flight under an id; and once a call under an id has been accepted, whatever
events follow, no call under the id is made, is in flight or is accepted. -/
theorem orders_are_accepted_at_most_once (venue : VenueProfile) (retry : RetryConfig)
    (limiter : RateLimiter) (token : Option Bool) (before : List DeskEvent) :
  let d := (opened venue retry limiter token).after before
  (∀ e t request, .called t (.submit request) ∈ (d.step e).2 → ∃ id, d.Calls e t id)
  ∧ (∀ e t id, d.Calls e t id ↔ ¬d.InFlight t id ∧ (d.step e).1.InFlight t id)
  ∧ (∀ t u id, d.InFlight t id → d.InFlight u id → t = u)
  ∧ ∀ e t id, d.Accepts e t id → ∀ later,
      let now := (d.step e).1.after later
      ∀ e' u, ¬now.Calls e' u id ∧ ¬now.InFlight u id ∧ ¬now.Accepts e' u id
  := by
  intro d
  have hd : d.Coupled := (coupled_opened venue retry limiter token).after before
  refine ⟨?_, fun e t id => calls_iff, fun t u id ht hu => ht.unique hu hd, ?_⟩
  · intro e t request hcalled
    obtain ⟨task, n, htask, hstage, made, -⟩ := task?_of_called hcalled
    obtain ⟨id, rfl⟩ := submitting_of_venueCall? hstage made
    exact ⟨id, request, .ready n, htask, hcalled⟩
  · intro e t id haccepts later now e' u
    have hnow : now.Coupled := (hd.step e).after later
    have hresolved : now.IsResolved id := (haccepts.isResolved hd).after (hd.step e) later
    have idle : ¬now.InFlight u id := by
      rintro ⟨request, n, htask⟩
      apply hresolved.not_submitting hnow htask
    refine ⟨?_, idle, ?_⟩
    · rintro ⟨request, stage, htask, -⟩
      apply hresolved.not_submitting hnow htask
    · rintro ⟨hflight, -⟩
      apply idle hflight

end Desk

end OrderDesk
