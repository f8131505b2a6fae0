import OrderDesk.Proofs.Desk.Coupling

/-!
# What the steps of a desk leave alone

A desk has the same venue and the same retry configuration at all times, and its token changes
only when it is cancelled, for good.
-/

namespace OrderDesk

namespace Desk

variable {d d' : Desk} {t : Ticket} {id : ClientId} {request : Payload}

/-! ### Steps of one operation -/

/-- Nothing but the cache, the audit log and the tasks may differ. -/
def Keeps (d d' : Desk) : Prop := ∃ shared audit tasks, d' = { d with shared, audit, tasks }

theorem Ends.keeps {p : Desk × List DeskEffect} (h : d.Ends t p) :
  d.Keeps p.1
  := by
  obtain ⟨audit, result, rfl⟩ := h
  exact ⟨_, _, _, rfl⟩

theorem keeps_followCall (d : Desk) (t : Ticket) (id : ClientId) (request : Payload) :
  d.Keeps (d.followCall t id request).1
  := by
  rw [followCall]
  split
  · exact ⟨_, _, _, rfl⟩
  · exact ⟨_, _, _, rfl⟩
  next outcome hcall => exact (d.returnSubmitted_ends t id request outcome).keeps
  · exact ⟨_, _, _, rfl⟩

theorem keeps_giveUp (d : Desk) (t : Ticket) {task : Task} {stage : RetryStage}
    (hstage : task.stage? = some stage) (failure : Failure) :
  d.Keeps (d.giveUp t task failure).1
  := by
  obtain ⟨id, request, rfl, hends⟩ | ⟨-, hends⟩ | ⟨-, heq⟩ := d.giveUp_cases t hstage failure
  · obtain ⟨shared, audit, tasks, heq⟩ := hends.keeps
    exact ⟨shared, audit, tasks, heq⟩
  · exact hends.keeps
  · rw [heq]
    exact ⟨_, _, _, rfl⟩

theorem keeps_follow (d : Desk) (t : Ticket) {task : Task} {stage : RetryStage}
    (hstage : task.stage? = some stage) (next : RetryStep Empty) :
  d.Keeps (d.follow t task next).1
  := by
  cases next with
  | finish result =>
    cases result with
    | ok a => exact a.elim
    | error failure => apply keeps_giveUp d t hstage failure
  | crash => exact ⟨_, _, _, rfl⟩
  | goOn stage' =>
    rw [follow_goOn]
    exact ⟨_, _, _, rfl⟩

/-- The venue, the retry configuration and the token are the same at two desks. -/
structure Framed (d d' : Desk) : Prop where
  venue : d'.venue = d.venue
  retry : d'.retry = d.retry
  token : d'.token = d.token

theorem Framed.refl (d : Desk) :
  d.Framed d
  := ⟨rfl, rfl, rfl⟩

theorem Keeps.framed (h : d.Keeps d') :
  d.Framed d'
  := by
  obtain ⟨shared, audit, tasks, rfl⟩ := h
  exact ⟨rfl, rfl, rfl⟩

/-! ### Steps of a desk -/

/-- No event but its cancellation changes the token, and none the venue or the configuration. -/
theorem framed_step (d : Desk) {e : DeskEvent} (he : e ≠ .cancel) :
  d.Framed (d.step e).1
  := by
  have m := d.step_move e
  generalize d.step e = p at m
  cases m with
  | rest => exact .refl d
  | reject => exact ⟨rfl, rfl, rfl⟩
  | submit =>
    obtain ⟨hvenue, hretry, htoken⟩ := (keeps_followCall _ _ _ _).framed
    exact ⟨hvenue, hretry, htoken⟩
  | cancelOrder => exact ⟨rfl, rfl, rfl⟩
  | reconcile => exact ⟨rfl, rfl, rfl⟩
  | call => exact ⟨rfl, rfl, rfl⟩
  | @retry t task _ limiter shown next htask retries =>
    obtain ⟨stage, hstage⟩ := retries.exists_stage
    obtain ⟨hvenue, hretry, htoken⟩ := (keeps_follow { d with limiter } t hstage next).framed
    exact ⟨hvenue, hretry, htoken⟩
  | accept =>
    obtain ⟨hvenue, hretry, htoken⟩ := (d.settleSubmitted_ends _ _ _ _).keeps.framed
    exact ⟨hvenue, hretry, htoken⟩
  | acknowledge => exact ⟨rfl, rfl, rfl⟩
  | list => exact ⟨rfl, rfl, rfl⟩
  | compare => exact ⟨rfl, rfl, rfl⟩
  | wake =>
    obtain ⟨hvenue, hretry, htoken⟩ := (keeps_followCall _ _ _ _).framed
    exact ⟨hvenue, hretry, htoken⟩
  | abort => exact ⟨rfl, rfl, rfl⟩
  | cancel => exact absurd rfl he
  | advance => exact ⟨rfl, rfl, rfl⟩
  | update => exact ⟨rfl, rfl, rfl⟩

@[simp]
theorem venue_step (d : Desk) (e : DeskEvent) :
  (d.step e).1.venue = d.venue
  := by
  by_cases he : e = .cancel
  · rw [he]
    rfl
  · exact (d.framed_step he).venue

@[simp]
theorem venue_after (d : Desk) (events : List DeskEvent) :
  (d.after events).venue = d.venue
  := by
  induction events generalizing d with
  | nil => rfl
  | cons e events ih => rw [after_cons, ih, venue_step]

@[simp]
theorem retry_step (d : Desk) (e : DeskEvent) :
  (d.step e).1.retry = d.retry
  := by
  by_cases he : e = .cancel
  · rw [he]
    rfl
  · exact (d.framed_step he).retry

@[simp]
theorem retry_after (d : Desk) (events : List DeskEvent) :
  (d.after events).retry = d.retry
  := by
  induction events generalizing d with
  | nil => rfl
  | cons e events ih => rw [after_cons, ih, retry_step]

/-- A desk either has a token or it has none. -/
theorem isSome_token_step (d : Desk) (e : DeskEvent) :
  (d.step e).1.token.isSome = d.token.isSome
  := by
  by_cases he : e = .cancel
  · rw [he]
    apply Option.isSome_map
  · rw [(d.framed_step he).token]

theorem isSome_token_after (d : Desk) (events : List DeskEvent) :
  (d.after events).token.isSome = d.token.isSome
  := by
  induction events generalizing d with
  | nil => rfl
  | cons e events ih => rw [after_cons, ih, isSome_token_step]

/-- Cancelling the token of a desk cancels its operations. -/
theorem isCancelled_step_cancel (h : d.token.isSome = true) :
  (d.step .cancel).1.isCancelled = true
  := by
  obtain ⟨cancelled, htoken⟩ := Option.isSome_iff_exists.1 h
  simp [step, isCancelled, htoken]

/-- A desk whose operations are cancelled stays so. -/
theorem isCancelled_step (h : d.isCancelled = true) (e : DeskEvent) :
  (d.step e).1.isCancelled = true
  := by
  by_cases he : e = .cancel
  · rw [he]
    apply isCancelled_step_cancel
    rw [isCancelled, beq_iff_eq] at h
    rw [h]
    rfl
  · rw [isCancelled, (d.framed_step he).token]
    exact h

theorem isCancelled_after (h : d.isCancelled = true) (events : List DeskEvent) :
  (d.after events).isCancelled = true
  := by
  refine after_induction (motive := fun d => d.isCancelled = true) ?_ h
  intro e _ d h
  apply isCancelled_step h e

end Desk

end OrderDesk
