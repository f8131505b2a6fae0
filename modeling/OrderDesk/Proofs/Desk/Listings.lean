import OrderDesk.Proofs.Desk.Endings
import OrderDesk.Proofs.Desk.Separation
import OrderDesk.Proofs.RateLimit.History
import OrderDesk.Proofs.Retry.Cancellation

/-!
# The retries of reconciliations

A reconciliation asks the venue for its open orders as any retried operation makes its attempts: the
events at a desk that are about it are to its retries what `retryEvents` says.  It is at the stage
of its retries until these end.  Then it has returned, if they were cancelled, and otherwise has
orders to compare with the cache, which it does when it goes on.
-/

namespace OrderDesk

namespace Desk

variable {d : Desk} {e : DeskEvent} {t : Ticket} {stage : RetryStage} {p : Desk × List DeskEffect}
  {r : RetryRun (List Payload)} {events : List DeskEvent}

/-! ### Events -/

/-- What an event about a reconciliation, or about none, is to its retries.  An attempt that gets no
permit has failed at once. -/
def retryEvents (d : Desk) : DeskEvent → List (RetryEvent (List Payload))
  | .resume t word =>
    if .refused t d.clock ∈ (d.step (.resume t word)).2 then
      [.resume, .outcome (.error d.refusal) word]
    else [.resume]
  | .listed _ orders => [.outcome (.ok orders) 0]
  | .failed _ failure word => [.outcome (.error (AttemptError.judge d.venue (.raw failure))) word]
  | .paused _ => [.paused]
  | .interrupted _ => [.interrupted]
  | .cancel => [.cancel]
  | _ => []

/-- What an event is to the retries of the reconciliation under a ticket. -/
def heard (d : Desk) (t : Ticket) (e : DeskEvent) : List (RetryEvent (List Payload)) :=
  if e.ticket?.all (· == t) then d.retryEvents e else []

/-- What a sequence of events is to the retries of the reconciliation under a ticket. -/
def retried (d : Desk) (t : Ticket) : List DeskEvent → List (RetryEvent (List Payload))
  | [] => []
  | e :: events => d.heard t e ++ (d.step e).1.retried t events

/-! ### Steps -/

/-- The orders that a reconciliation compares with the cache when its retries end: a listing that
has failed is as good as an empty one. -/
def listing : Except Failure (List Payload) → List Payload
  | .ok orders => orders
  | .error _ => []

/-- The retried operation is set up as the operations of the desk are. -/
structure Tracks (d : Desk) (r : RetryRun (List Payload)) : Prop where
  config : r.config = d.retry
  listens : r.listens = d.token.isSome
  cancelled : r.isCancelled = d.isCancelled

/-- The reconciliation under the ticket is where its retries are: at their stage, about to compare
the orders that they have ended with, or gone with them. -/
inductive Stands (t : Ticket) (p : Desk × List DeskEffect) :
    RetryStatus (List Payload) → Prop where
  | goesOn {stage : RetryStage} (htask : p.1.task? t = some (.reconciling stage)) :
      Stands t p (.active stage)
  | compares {outcome : Except Failure (List Payload)} (uncancelled : outcome ≠ .error .cancelled)
      (htask : p.1.task? t = some (.comparing (listing outcome))) : Stands t p (.done outcome)
  | stops (shown : .finished t (.error .cancelled) ∈ p.2) :
      Stands t p (.done (.error .cancelled))
  | crashes (htask : p.1.task? t = some .dropped) : Stands t p .crashed

theorem Stands.prepend {status : RetryStatus (List Payload)} (h : Stands t p status)
    (shown : List DeskEffect) :
  Stands t (p.1, shown ++ p.2) status
  := by
  cases h with
  | goesOn htask => exact .goesOn htask
  | compares uncancelled htask => exact .compares uncancelled htask
  | stops stopped => exact .stops (List.mem_append_right shown stopped)
  | crashes htask => exact .crashes htask

theorem stands_giveUp (d : Desk) (t : Ticket) (stage : RetryStage) (failure : Failure) :
  Stands t (d.giveUp t (.reconciling stage) failure) (.done (.error failure))
  := by
  rw [giveUp]
  split
  next cancelled =>
    rw [cancelled]
    exact .stops (List.mem_singleton_self _)
  next uncancelled =>
    apply Stands.compares
    · rintro ⟨⟩
      exact uncancelled rfl
    · exact (task?_setTask _ _ _ _).trans (if_pos rfl)

/-- A failed attempt takes the reconciliation where it takes the retries. -/
theorem stands_afterFailure (d : Desk) (limiter : RateLimiter) (t : Ticket) (stage : RetryStage)
    (word : UInt64) (n : Nat) (failure : Failure) :
  Stands t
    ({ d with limiter }.follow t (.reconciling stage)
      (RetryStage.afterFailure d.retry d.isCancelled word n failure))
    (RetryStage.afterFailure d.retry d.isCancelled word n failure).status
  := by
  have stays (next : RetryStage) :
      Stands t ({ d with limiter }.follow t (.reconciling stage) (.goOn next))
        (.active next) := by
    apply Stands.goesOn
    rw [follow_goOn, task?_setTask, if_pos rfl]
    rfl
  rw [RetryStage.afterFailure, RetryStage.afterFailure]
  by_cases fatal : ¬failure.isRetryable
  · rw [if_pos fatal, if_pos fatal]
    exact stands_giveUp _ t stage failure
  · rw [if_neg fatal, if_neg fatal]
    by_cases last : d.retry.attempts ≤ n + 1
    · rw [if_pos last, if_pos last]
      exact stands_giveUp _ t stage failure
    · rw [if_neg last, if_neg last]
      rcases d.retry.nextDelay? n word with _ | delay
      · exact .crashes ((task?_setTask _ _ _ _).trans (if_pos rfl))
      · dsimp only
        by_cases cancelled : d.isCancelled = true
        · rw [if_pos cancelled, if_pos cancelled]
          exact stands_giveUp _ t stage .cancelled
        · rw [if_neg cancelled, if_neg cancelled]
          by_cases empty : delay.isZero = true
          · rw [if_pos empty, if_pos empty]
            apply stays
          · rw [if_neg empty, if_neg empty]
            apply stays

/-- The failure of an attempt takes the reconciliation where it takes the retries. -/
theorem stands_failed {n : Nat} (limiter : RateLimiter) (t : Ticket) (stage : RetryStage)
    (tracks : d.Tracks r) (active : r.status = .active (.running n)) (failure : Failure)
    (word : UInt64) :
  Stands t
    ({ d with limiter }.follow t (.reconciling stage)
      (RetryStage.afterFailure d.retry d.isCancelled word n failure))
    (r.step (.outcome (.error failure) word)).status
  := by
  rw [RetryRun.status_step_outcome active, RetryStage.afterAttempt, tracks.config,
    tracks.cancelled]
  apply stands_afterFailure

/-- A reconciliation that is to make an attempt asks for a permit, and without one its attempt has
failed. -/
theorem stands_resume {n : Nat} (htask : d.task? t = some (.reconciling (.ready n)))
    (tracks : d.Tracks r) (active : r.status = .active (.ready n)) (word : UInt64) :
  Stands t (d.step (.resume t word)) (r.steps (d.retryEvents (.resume t word))).status
  := by
  have hstep : d.step (.resume t word)
      = d.attempt t (.reconciling (.ready n)) .openOrders n word := by
    rw [step, htask]
    rfl
  -- the attempt is not refused a permit unless this is shown
  have single {q : Desk × List DeskEffect} (hq : d.step (.resume t word) = q)
      (silent : .refused t d.clock ∉ q.2) : d.retryEvents (.resume t word) = [.resume] := by
    rw [retryEvents, hq, if_neg silent]
  rcases cancelled : d.isCancelled
  · have hr : r.step .resume = _ :=
      RetryRun.step_resume_of_running active (tracks.cancelled.trans cancelled)
    rcases permit : d.limiter.acquire d.clock with ⟨limiter, granted⟩
    cases granted with
    | true =>
      rw [attempt_of_granted cancelled permit] at hstep
      rw [single hstep (by simp), hstep]
      change Stands t _ (r.step .resume).status
      rw [hr]
      apply Stands.goesOn
      rw [task?_setTask, if_pos rfl]
      rfl
    | false =>
      rw [attempt_of_refused cancelled permit] at hstep
      have refused : .refused t d.clock ∈ (d.step (.resume t word)).2 := by
        rw [hstep]
        exact List.mem_cons_self
      have hrefusal : { d with limiter }.refusal = d.refusal := by
        have hlimit := d.limiter.limit_ask (.acquire d.clock)
        rw [RateLimiter.ask, permit] at hlimit
        rw [refusal, refusal, hlimit]
      rw [retryEvents, if_pos refused, hstep]
      change Stands t _ ((r.step .resume).step (.outcome (.error d.refusal) word)).status
      rw [hr, hrefusal]
      apply Stands.prepend _ [.refused t d.clock]
      apply stands_failed
      · exact ⟨tracks.config, tracks.listens, tracks.cancelled⟩
      · rfl
  · have hr : r.step .resume = _ :=
      RetryRun.step_resume_of_cancelled active (tracks.cancelled.trans cancelled)
    rw [attempt_of_cancelled cancelled] at hstep
    rw [single hstep (by simp [follow, giveUp, finish]), hstep]
    change Stands t _ (r.step .resume).status
    rw [hr]
    exact stands_giveUp d t (.ready n) .cancelled

/-- An event that does not fit the stage leaves the reconciliation and its retries as they are. -/
theorem stands_rest (htask : d.task? t = some (.reconciling stage))
    (active : r.status = .active stage) (hstep : d.step e = (d, []))
    (hr : r.steps (d.retryEvents e) = r) :
  Stands t (d.step e) (r.steps (d.retryEvents e)).status
  := by
  rw [hstep, hr, active]
  exact .goesOn htask

/-- Every event about a reconciliation takes it where it takes the retries. -/
theorem stands_step (htask : d.task? t = some (.reconciling stage)) (tracks : d.Tracks r)
    (active : r.status = .active stage) (about : e.ticket? = some t) (kept : e ≠ .abort t) :
  Stands t (d.step e) (r.steps (d.retryEvents e)).status
  := by
  cases e with
  | begin u operation =>
    cases about
    apply stands_rest htask active _ rfl
    rw [step, begin.eq_def, htask]
  | resume u word =>
    cases about
    cases stage with
    | ready n => exact stands_resume htask tracks active word
    | _ =>
      have hstep : d.step (.resume t word) = (d, []) := by
        rw [step, htask]
        rfl
      apply stands_rest htask active hstep
      rw [retryEvents, hstep, if_neg List.not_mem_nil]
      change r.step .resume = r
      rw [RetryRun.step, active]
  | accepted u response =>
    cases about
    apply stands_rest htask active _ rfl
    rw [step, htask]
  | acknowledged u raw =>
    cases about
    apply stands_rest htask active _ rfl
    rw [step, htask]
  | listed u orders =>
    cases about
    cases stage with
    | running n =>
      have hstep : d.step (.listed t orders) = (d.setTask t (.comparing orders), []) := by
        rw [step, htask]
      change Stands t _ (r.step (.outcome (.ok orders) 0)).status
      rw [hstep, RetryRun.status_step_outcome active]
      exact .compares (by simp) ((task?_setTask _ _ _ _).trans (if_pos rfl))
    | _ =>
      apply stands_rest htask active
      · rw [step, htask]
      · change r.step (.outcome (.ok orders) 0) = r
        rw [RetryRun.step, active]
  | compare u =>
    cases about
    apply stands_rest htask active _ rfl
    rw [step, htask]
  | failed u failure word =>
    cases about
    cases stage with
    | running n =>
      have hstep : d.step (.failed t failure word)
          = d.follow t (.reconciling (.running n)) (RetryStage.afterFailure d.retry d.isCancelled
            word n (AttemptError.judge d.venue (.raw failure))) := by
        rw [step, htask]
        rfl
      rw [hstep]
      exact stands_failed d.limiter t (.running n) tracks active _ word
    | _ =>
      apply stands_rest htask active
      · rw [step, htask]
        rfl
      · change r.step (.outcome _ word) = r
        rw [RetryRun.step, active]
  | paused u =>
    cases about
    cases stage with
    | pausing n delay =>
      change Stands t _ (r.step .paused).status
      rw [RetryRun.step_paused active]
      exact .goesOn (task?_step_paused htask rfl)
    | _ =>
      apply stands_rest htask active
      · rw [step, htask]
        rfl
      · change r.step .paused = r
        rw [RetryRun.step, active]
  | interrupted u =>
    cases about
    cases stage with
    | pausing n delay =>
      rcases cancelled : d.isCancelled
      · apply stands_rest htask active
        · rw [step, htask]
          simp only [Task.stage?, cancelled, Bool.false_eq_true, if_false]
        · change r.step .interrupted = r
          rw [RetryRun.step, active]
          simp only [tracks.cancelled, cancelled, Bool.false_eq_true, if_false]
      · have hstep : d.step (.interrupted t)
            = d.giveUp t (.reconciling (.pausing n delay)) .cancelled := by
          rw [step, htask]
          simp only [Task.stage?, cancelled, if_true]
        change Stands t _ (r.step .interrupted).status
        rw [hstep, RetryRun.step_interrupted active (tracks.cancelled.trans cancelled)]
        exact stands_giveUp d t _ .cancelled
    | _ =>
      apply stands_rest htask active
      · rw [step, htask]
        rfl
      · change r.step .interrupted = r
        rw [RetryRun.step, active]
  | wake u =>
    cases about
    apply stands_rest htask active _ rfl
    rw [step, htask]
  | abort u =>
    cases about
    exact absurd rfl kept
  | cancel => cases about
  | advance nanoseconds => cases about
  | update id response => cases about

/-! ### Runs -/

theorem eq_cancel_of_heard (h : .cancel ∈ d.heard t e) :
  e = .cancel
  := by
  rw [heard] at h
  split at h
  · cases e with
    | cancel => rfl
    | resume u word =>
      rw [retryEvents] at h
      split at h
      · simp at h
      · simp at h
    | _ => simp [retryEvents] at h
  · cases h

/-- The retries of a reconciliation are cancelled as its desk is. -/
theorem Tracks.step (h : d.Tracks r) (t : Ticket) (e : DeskEvent) :
  (d.step e).1.Tracks (r.steps (d.heard t e))
  := by
  constructor
  · rw [RetryRun.config_steps, retry_step, h.config]
  · rw [RetryRun.listens_steps, isSome_token_step, h.listens]
  · by_cases he : e = .cancel
    · subst he
      change (r.listens && true) = _
      rw [h.listens, Bool.and_true, isCancelled, Desk.step]
      cases d.token with
      | none => rfl
      | some cancelled => rfl
    · have uncancelled : .cancel ∉ d.heard t e := fun hmem => he (eq_cancel_of_heard hmem)
      rw [RetryRun.isCancelled_steps_of_not_mem uncancelled, h.cancelled, isCancelled, isCancelled,
        (d.framed_step he).token]

/-- Every event takes a reconciliation where it takes its retries. -/
theorem stands_heard (htask : d.task? t = some (.reconciling stage)) (tracks : d.Tracks r)
    (active : r.status = .active stage) (kept : e ≠ .abort t) :
  Stands t (d.step e) (r.steps (d.heard t e)).status
  := by
  by_cases about : e.ticket? = some t
  · rw [heard, about, Option.all_some, beq_self_eq_true, if_pos rfl]
    apply stands_step htask tracks active about kept
  · have hstatus : (r.steps (d.heard t e)).status = .active stage := by
      cases hticket : e.ticket? with
      | none =>
        cases e with
        | cancel => exact active
        | advance => exact active
        | update => exact active
        | _ => cases hticket
      | some u =>
        have hne : u ≠ t := by
          rintro rfl
          exact about hticket
        rw [heard, hticket, Option.all_some, if_neg (by simp [hne])]
        exact active
    rw [hstatus]
    apply Stands.goesOn
    rw [task?_step_of_ticket_ne about, htask]

/-- A reconciliation is at the stage of its retries until these end, and goes where they take it in
the event in which they end. -/
theorem stands_after (htask : d.task? t = some (.reconciling stage)) (tracks : d.Tracks r)
    (active : r.status = .active stage) (kept : .abort t ∉ events) :
  (∀ stage', (r.steps (d.retried t events)).status = .active stage' →
    (d.after events).task? t = some (.reconciling stage'))
  ∧ ((∀ stage', (r.steps (d.retried t events)).status ≠ .active stage') →
    ∃ earlier e later, events = earlier ++ e :: later
      ∧ Stands t ((d.after earlier).step e) (r.steps (d.retried t events)).status)
  := by
  induction events generalizing d r stage with
  | nil =>
    constructor
    · intro stage' h
      cases active.symm.trans h
      exact htask
    · intro ended
      exact absurd active (ended stage)
  | cons e events ih =>
    have stands := stands_heard htask tracks active fun he => kept (he ▸ List.mem_cons_self)
    have hsteps : r.steps (d.retried t (e :: events))
        = (r.steps (d.heard t e)).steps ((d.step e).1.retried t events) := List.foldl_append
    rw [hsteps, after_cons]
    by_cases goesOn : ∃ stage', (r.steps (d.heard t e)).status = .active stage'
    · obtain ⟨stage', active'⟩ := goesOn
      rw [active'] at stands
      cases stands with
      | goesOn htask' =>
        obtain ⟨goesOn, ends⟩ := ih htask' (tracks.step t e) active'
          fun hmem => kept (List.mem_cons_of_mem e hmem)
        refine ⟨goesOn, ?_⟩
        intro ended
        obtain ⟨earlier, e', later, rfl, stands⟩ := ends ended
        refine ⟨e :: earlier, e', later, rfl, ?_⟩
        rw [after_cons]
        exact stands
    · rw [not_exists] at goesOn
      rw [RetryRun.status_steps_of_ended goesOn]
      constructor
      · intro stage' h
        exact absurd h (goesOn stage')
      · intro _
        exact ⟨[], e, events, rfl, stands⟩

end Desk

end OrderDesk
