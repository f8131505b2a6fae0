import OrderDesk.Proofs.Cache.Origins
import OrderDesk.Proofs.Desk.Attempts
import OrderDesk.Proofs.Desk.Endings
import OrderDesk.Proofs.Desk.Records

/-!
# Submissions under way

A submission that waits or calls the venue is one that has begun under its ticket: it goes by the id
that it was given, or that was generated for it, and by the request that its order is put to the
venue as.  What its call on the cache returns in the end is stored under that id, or is a conflict
on it, or is how the attempts of a submission have failed.
-/

namespace OrderDesk

/-- The id and the request of a submission under way. -/
def Task.submission? : Task → Option (ClientId × Payload)
  | .waiting id request => some (id, request)
  | .submitting id request _ => some (id, request)
  | _ => none

theorem Task.submission?_atStage (task : Task) (stage : RetryStage) :
  (task.atStage stage).submission? = task.submission?
  := by
  cases task with
  | _ => rfl

namespace Desk

variable {d : Desk} {e : DeskEvent} {t : Ticket} {id : ClientId} {request : Payload}
  {venue : VenueProfile} {operations : List (Ticket × Operation)}

/-! ### Ids and requests -/

/-- The id is the one that a submission is given, or one that is generated for it. -/
inductive Named (venue : VenueProfile) (id : ClientId) : Option ClientId → Prop where
  | supplied : Named venue id (some id)
  | generated (k : UInt64) (heq : id = .generated venue.name k) : Named venue id none

/-- The operation puts an order to the venue under the id, as the request. -/
inductive Puts (venue : VenueProfile) (id : ClientId) (request : Payload) : Operation → Prop where
  | submit {order : Order} {clientId : Option ClientId} (complete : order.isComplete = true)
      (named : Named venue id clientId) (built : venue.buildRequest id order = .ok request) :
      Puts venue id request (.submit order clientId)

theorem named_resolveId (d : Desk) (clientId : Option ClientId) :
  Named d.venue (d.resolveId clientId).2 clientId
  := by
  cases clientId with
  | some id => exact .supplied
  | none => exact .generated _ rfl

/-- Every submission under way is one of the operations, and puts its order to the venue. -/
def Assigned (d : Desk) (operations : List (Ticket × Operation)) : Prop :=
  ∀ t task id request, d.task? t = some task → task.submission? = some (id, request) →
    ∃ operation, (t, operation) ∈ operations ∧ Puts d.venue id request operation

theorem submission?_followCall {p : ClientId × Payload} {task : Task} (fresh : d.task? t = none)
    (htask : (d.followCall t id request).1.task? t = some task)
    (hsubmission : task.submission? = some p) :
  p = (id, request)
  := by
  rw [followCall] at htask
  split at htask
  · rw [task?_setTask, if_pos rfl] at htask
    cases htask
    exact (Option.some.inj hsubmission).symm
  · rw [task?_setTask, if_pos rfl] at htask
    cases htask
    exact (Option.some.inj hsubmission).symm
  next outcome hcall =>
    obtain ⟨audit, result, hends⟩ := d.returnSubmitted_ends t id request outcome
    rw [hends, task?_setTask, if_pos rfl] at htask
    cases htask
    cases hsubmission
  · cases fresh.symm.trans htask

/-- A submission that comes to be under way under a new ticket begins in the event. -/
theorem puts_of_begins (hd : d.Coupled) (fresh : d.task? t = none) {task : Task}
    (htask : (d.step e).1.task? t = some task)
    (hsubmission : task.submission? = some (id, request)) :
  ∃ operation, d.begins? e = some (t, operation) ∧ Puts d.venue id request operation
  := by
  obtain ⟨operation, hbegins, -⟩ := begins?_of_step hd fresh htask
  obtain ⟨rfl, -⟩ := begins?_eq_some.1 hbegins
  refine ⟨operation, hbegins, ?_⟩
  have m := d.step_move (.begin t operation)
  generalize d.step (.begin t operation) = p at m htask
  cases m with
  | rest => cases fresh.symm.trans htask
  | reject =>
    obtain rfl : Task.finished _ = task := by simpa [finish] using htask
    cases hsubmission
  | submit fresh unasked complete built =>
    cases submission?_followCall (by exact fresh) htask hsubmission
    exact .submit complete (d.named_resolveId _) built
  | cancelOrder =>
    obtain rfl : Task.cancelling _ _ _ = task := by simpa using htask
    cases hsubmission
  | reconcile =>
    obtain rfl : Task.reconciling _ = task := by simpa using htask
    cases hsubmission
  | retry htask retries => cases retries

theorem Assigned.step (h : d.Assigned operations) (hd : d.Coupled) (e : DeskEvent) :
  (d.step e).1.Assigned (operations ++ (d.begins? e).toList)
  := by
  intro t task id request htask hsubmission
  rw [venue_step]
  have kept {task' : Task} (hbefore : d.task? t = some task')
      (hsubmission : task'.submission? = some (id, request)) :
      ∃ operation, (t, operation) ∈ operations ++ (d.begins? e).toList
        ∧ Puts d.venue id request operation := by
    obtain ⟨operation, hmem, puts⟩ := h t task' id request hbefore hsubmission
    exact ⟨operation, List.mem_append_left _ hmem, puts⟩
  rcases hbefore : d.task? t with _ | task'
  · obtain ⟨operation, hbegins, puts⟩ := puts_of_begins hd hbefore htask hsubmission
    exact ⟨operation, List.mem_append_right _ (Option.mem_toList.2 hbegins), puts⟩
  · apply kept hbefore
    obtain hsame | ⟨task'', hafter, turn⟩ := d.turns_step e t
    · rw [hsame, hbefore] at htask
      cases htask
      exact hsubmission
    · cases htask.symm.trans hafter
      cases turn with
      | ends => cases hsubmission
      | leaves => cases hsubmission
      | crashes => cases hsubmission
      | compares => cases hsubmission
      | waits e asking =>
        obtain fresh | hwaiting := asking
        · cases fresh.symm.trans hbefore
        · cases hwaiting.symm.trans hbefore
          exact hsubmission
      | resolves e asking =>
        obtain fresh | hwaiting := asking
        · cases fresh.symm.trans hbefore
        · cases hwaiting.symm.trans hbefore
          exact hsubmission
      | cancels fresh => cases hsubmission
      | reconciles fresh => cases hsubmission
      | calls word hbefore' =>
        cases hbefore'.symm.trans hbefore
        rw [Task.submission?_atStage] at hsubmission
        exact hsubmission
      | goesOn e hbefore' =>
        cases hbefore'.symm.trans hbefore
        rw [Task.submission?_atStage] at hsubmission
        exact hsubmission

theorem Assigned.after (h : d.Assigned operations) (hd : d.Coupled) (events : List DeskEvent) :
  (d.after events).Assigned (operations ++ d.begun events)
  := by
  induction events generalizing d operations with
  | nil =>
    rw [begun, List.append_nil]
    exact h
  | cons e events ih =>
    rw [after_cons, begun, ← List.append_assoc]
    apply ih (h.step hd e) (hd.step e)

/-! ### What submissions return -/

/-- An operation that begins and returns at once begins under a new ticket. -/
theorem begins?_of_finished {operation : Operation} {result : Result}
    (h : .finished t result ∈ (d.step (.begin t operation)).2) :
  d.begins? (.begin t operation) = some (t, operation)
  := by
  rw [step, begin.eq_def] at h
  split at h
  next fresh unasked => exact begins?_eq_some.2 ⟨rfl, fresh, unasked⟩
  next => cases h

/-- What a submission returns when it is woken is what its call has returned under its id. -/
theorem call?_of_woken (hd : d.Coupled) (htask : d.task? t = some (.waiting id request))
    {id' : ClientId} {request' : Payload} {outcome : Outcome}
    (hcall : (d.shared.wake t).call? t = some ⟨id', request', .returned outcome⟩) :
  (d.step (.wake t)).1.shared.call? t = some ⟨id, request', .returned outcome⟩
  := by
  obtain ⟨channel, hwaiting⟩ := hd.call_of_waiting htask
  obtain ⟨phase, hcall', -⟩ := call?_wake hwaiting
  obtain ⟨rfl, -⟩ : id = id' ∧ _ := by simpa using hcall'.symm.trans hcall
  rw [step, htask]
  dsimp only
  rw [shared_followCall]
  exact hcall

/-- Retries that end without a success end with a failure of an attempt. -/
theorem Retries.attemptFailure {task : Task} {limiter : RateLimiter} {shown : List DeskEffect}
    {failure : Failure}
    (h : d.Retries t task e limiter shown (.finish (.error failure))) :
  AttemptFailure d.venue failure
  := by
  generalize hnext : RetryStep.finish (Except.error failure) = next at h
  cases h with
  | stopped =>
    cases hnext
    exact .cancelled
  | refused =>
    cases RetryStage.aftermath hnext.symm with
    | fails => exact .unpermitted _
    | withdrawn => exact .cancelled
  | failed raw =>
    cases RetryStage.aftermath hnext.symm with
    | fails => exact .judged raw
    | withdrawn => exact .cancelled
  | rested => cases hnext
  | interrupted =>
    cases hnext
    exact .cancelled

/-- What holds of the cached responses, of the responses that the venue gives to accepted orders, of
conflicts and of failed attempts holds of all that the calls on the cache return. -/
theorem warranted_step {W : ClientId → Outcome → Prop} (h : d.shared.Warranted W) (hd : d.Coupled)
    (stored : ∀ id cached, d.cache.get? id = some cached → W id (.ok cached))
    (conflict : ∀ id, W id (.error (.fatal (.orderConflict id))))
    (accepted : ∀ t id request n response, e = .accepted t response →
      d.task? t = some (.submitting id request (.running n)) →
      W id (.ok (d.venue.annotate id request response)))
    (failed : ∀ id failure, AttemptFailure d.venue failure → W id (.error failure)) :
  (d.step e).1.shared.Warranted W
  := by
  have stored' (id : ClientId) (entry : CacheEntry)
      (slot : d.shared.cache.slot? id = some (.resolved entry)) : W id (.ok entry.response) := by
    apply stored
    rw [Cache.get?, cache, Cache.entry?_eq_some.2 slot]
    rfl
  have unsettled (e' : CacheEvent) (he' : ∀ t outcome, e' ≠ .settle t outcome) :
      (d.shared.step e').Warranted W := by
    apply h.step hd.sound stored' conflict
    intro t id request outcome heq
    exact absurd heq (he' t outcome)
  have settled {t : Ticket} {id : ClientId} {request : Payload} {stage : RetryStage}
      (htask : d.task? t = some (.submitting id request stage)) {outcome : Outcome}
      (houtcome : W id outcome) : (d.shared.step (.settle t outcome)).Warranted W := by
    apply h.step hd.sound stored' conflict
    intro t' id' request' outcome' heq call
    cases heq
    cases (hd.call_of_submitting htask).symm.trans call
    exact houtcome
  have m := d.step_move e
  generalize d.step e = p at m
  cases m with
  | rest => exact h
  | reject => exact h
  | submit =>
    rw [shared_followCall]
    exact unsettled (.remember _ _ _) (by rintro t outcome ⟨⟩)
  | cancelOrder => exact h
  | reconcile => exact h
  | call => exact h
  | @retry t task _ limiter shown next htask retries =>
    obtain ⟨stage, hstage⟩ := retries.exists_stage
    cases next with
    | finish result =>
      cases result with
      | ok a => exact a.elim
      | error failure =>
        obtain ⟨id, request, rfl, hends⟩ | ⟨-, hends⟩ | ⟨-, heq⟩ :=
          { d with limiter }.giveUp_cases t hstage failure
        · dsimp only [follow]
          rw [hends.shared_eq]
          exact settled htask (failed id failure retries.attemptFailure)
        · dsimp only [follow]
          rw [hends.shared_eq]
          exact h
        · rw [follow, heq]
          exact h
    | crash => exact unsettled (.abort t) (by rintro t outcome ⟨⟩)
    | goOn stage' =>
      rw [follow_goOn]
      exact h
  | @accept t id request n response htask =>
    rw [(d.settleSubmitted_ends t id request (.ok response)).shared_eq]
    exact settled htask (accepted t id request n response rfl htask)
  | @acknowledge t id target n raw htask =>
    rw [(d.acknowledge_ends t id target raw).shared_eq]
    exact unsettled (.update _ _) (by rintro t outcome ⟨⟩)
  | list => exact h
  | compare => exact h
  | wake =>
    rw [shared_followCall]
    exact unsettled (.wake _) (by rintro t outcome ⟨⟩)
  | abort => exact unsettled (.abort _) (by rintro t outcome ⟨⟩)
  | cancel => exact h
  | advance => exact h
  | update id response => exact unsettled (.update _ _) (by rintro t outcome ⟨⟩)

end Desk

end OrderDesk
