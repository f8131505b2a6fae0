import OrderDesk.Proofs.Desk.Results

/-!
# How operations end

An operation ends because it is turned down, because the cache knows what its id was resolved to,
because the venue answers it, or because its retries end with a failure.  `Yields` has one
constructor for each of these, with the result, and `yields_of_finished` says that the result that
an event shows is yielded in it.
-/

namespace OrderDesk

namespace Desk

variable {d : Desk} {e : DeskEvent} {t u : Ticket} {id : ClientId} {request : Payload}
  {outcome : Outcome} {result : Result}

/-- What a submission returns if its id was resolved to the outcome. -/
def submitted (d : Desk) (id : ClientId) (request : Payload) (outcome : Outcome) : Result :=
  outcome.map fun response => .response (d.venue.annotate id request response)

theorem submitted_eq_error {failure : Failure} :
  d.submitted id request outcome = .error failure ↔ outcome = .error failure
  := by
  cases outcome with
  | ok response => exact iff_of_false nofun nofun
  | error failure' => simp [submitted, Except.map]

theorem submitted_ne_report {report : Reconciliation} :
  d.submitted id request outcome ≠ .ok (.report report)
  := by
  cases outcome with
  | ok response => simp [submitted, Except.map]
  | error failure => exact nofun

/-- The comparison of what a desk remembers with the listed orders. -/
def comparison (d : Desk) (orders : List Payload) : Reconciliation :=
  .diff (d.cache.keys.map ClientId.text) (orders.filterMap d.venue.token?)

/-- In the event the operation under a ticket ends with the result. -/
inductive Yields (d : Desk) (t : Ticket) : DeskEvent → Result → Prop where
  | rejected {operation : Operation} {sequence : UInt64} {failure : Failure}
      (rejects : d.Rejects operation sequence failure) :
      Yields d t (.begin t operation) (.error failure)
  /-- The cache answers a submission as it begins. -/
  | answered {order : Order} {clientId : Option ClientId} {request : Payload} {outcome : Outcome}
      (complete : order.isComplete = true)
      (built : d.venue.buildRequest (d.resolveId clientId).2 order = .ok request)
      (answer : (d.cache.enter t (d.resolveId clientId).2 (.of request)).2 = .answered outcome) :
      Yields d t (.begin t (.submit order clientId))
        (d.submitted (d.resolveId clientId).2 request outcome)
  /-- The call of a submission that has waited for another one returns. -/
  | woken {id id' : ClientId} {request request' : Payload} {outcome : Outcome}
      (htask : d.task? t = some (.waiting id request))
      (hcall : (d.shared.wake t).call? t = some ⟨id', request', .returned outcome⟩) :
      Yields d t (.wake t) (d.submitted id request outcome)
  | accepted {id : ClientId} {request : Payload} {n : Nat} (response : Payload)
      (htask : d.task? t = some (.submitting id request (.running n))) :
      Yields d t (.accepted t response)
        (d.submitted id request (.ok (d.venue.annotate id request response)))
  | acknowledged {id : ClientId} {target : CancelTarget} {n : Nat} (raw : Option Payload)
      (htask : d.task? t = some (.cancelling id target (.running n))) :
      Yields d t (.acknowledged t raw) (.ok (.response (d.venue.cancelResponse target raw)))
  /-- A reconciliation compares the listing that it has with the cache. -/
  | compared {orders : List Payload} (htask : d.task? t = some (.comparing orders)) :
      Yields d t (.compare t) (.ok (.report (d.comparison orders)))
  /-- The retries end with a failure. -/
  | failed {task : Task} {e : DeskEvent} {limiter : RateLimiter} {shown : List DeskEffect}
      {failure : Failure} (htask : d.task? t = some task)
      (retries : d.Retries t task e limiter shown (.finish (.error failure)))
      (hstep : (d.step e).2 = shown ++ [.finished t (.error failure)]) :
      Yields d t e (.error failure)

/-! ### Results that are shown -/

theorem finished_of_returnSubmitted
    (h : .finished u result ∈ (d.returnSubmitted t id request outcome).2) :
  u = t ∧ result = d.submitted id request outcome
  := by
  cases outcome with
  | ok response => simpa [returnSubmitted, finish, submitted, Except.map] using h
  | error failure => simpa [returnSubmitted, finish, submitted, Except.map] using h

/-- A submission that follows its call returns what the call has returned. -/
theorem finished_of_followCall (h : .finished u result ∈ (d.followCall t id request).2) :
  u = t ∧ ∃ id' request' outcome, d.shared.call? t = some ⟨id', request', .returned outcome⟩
    ∧ result = d.submitted id request outcome
  := by
  rw [followCall] at h
  split at h
  · cases h
  · cases h
  next id' request' outcome hcall =>
    obtain ⟨rfl, rfl⟩ := finished_of_returnSubmitted h
    exact ⟨rfl, id', request', outcome, hcall, rfl⟩
  · cases h

/-- A task whose retries show a result gives up. -/
theorem finished_of_follow {task : Task} {stage : RetryStage} (hstage : task.stage? = some stage)
    {next : RetryStep Empty} (h : .finished u result ∈ (d.follow t task next).2) :
  u = t ∧ ∃ failure, next = .finish (.error failure) ∧ result = .error failure
    ∧ (d.follow t task next).2 = [.finished t (.error failure)]
  := by
  cases next with
  | crash => cases h
  | goOn stage' => cases stage' <;> simp [follow] at h
  | finish ended =>
    cases ended with
    | ok a => exact a.elim
    | error failure =>
      rw [follow] at h ⊢
      cases task with
      | submitting id request =>
        obtain ⟨rfl, rfl⟩ := finished_of_returnSubmitted h
        exact ⟨rfl, failure, rfl, rfl, rfl⟩
      | cancelling =>
        obtain ⟨rfl, rfl⟩ : u = t ∧ result = .error failure := by simpa [giveUp, finish] using h
        exact ⟨rfl, failure, rfl, rfl, rfl⟩
      | reconciling =>
        cases hstage
        rw [giveUp] at h ⊢
        split at h
        next cancelled =>
          obtain ⟨rfl, rfl⟩ : u = t ∧ result = .error failure := by simpa [finish] using h
          rw [if_pos cancelled]
          exact ⟨rfl, failure, rfl, rfl, rfl⟩
        · cases h
      | waiting => cases hstage
      | comparing => cases hstage
      | finished => cases hstage
      | dropped => cases hstage

/-- The result that an event shows is yielded in it. -/
theorem yields_of_finished (h : .finished t result ∈ (d.step e).2) :
  d.Yields t e result
  := by
  have m := d.step_move e
  generalize hstep : d.step e = p at m h
  cases m with
  | rest => cases h
  | reject fresh unasked rejects =>
    obtain ⟨rfl, rfl⟩ : t = _ ∧ result = _ := by simpa [finish] using h
    exact .rejected rejects
  | submit fresh unasked complete built =>
    obtain ⟨rfl, _, _, outcome, hcall, rfl⟩ := finished_of_followCall h
    rw [call?_remember_of_unasked unasked] at hcall
    injection hcall with hcall
    injection hcall with _ _ hphase
    apply Yields.answered complete built
    rw [cache]
    generalize (d.shared.cache.enter _ _ _).2 = entrance at hphase
    cases entrance with
    | answered =>
      cases hphase
      rfl
    | waits => cases hphase
    | resolves => cases hphase
  | cancelOrder => cases h
  | reconcile => cases h
  | call => simp at h
  | @retry u task _ limiter shown next htask retries =>
    obtain ⟨stage, hstage⟩ := retries.exists_stage
    obtain h | h := List.mem_append.1 h
    · exact absurd h (retries.not_finished t _)
    · obtain ⟨rfl, failure, rfl, rfl, hfollow⟩ := finished_of_follow hstage h
      apply Yields.failed htask retries
      rw [hstep, hfollow]
  | accept response htask =>
    obtain ⟨rfl, rfl⟩ := finished_of_returnSubmitted h
    exact .accepted response htask
  | acknowledge raw htask =>
    obtain ⟨rfl, rfl⟩ : t = _ ∧ result = _ := by simpa [acknowledge, finish] using h
    exact .acknowledged raw htask
  | list => cases h
  | compare htask =>
    obtain ⟨rfl, rfl⟩ : t = _ ∧ result = _ := by simpa [report, finish] using h
    exact .compared htask
  | wake htask =>
    obtain ⟨rfl, _, _, outcome, hcall, rfl⟩ := finished_of_followCall h
    exact .woken htask hcall
  | abort => cases h
  | cancel => cases h
  | advance => cases h
  | update => cases h

end Desk

end OrderDesk
