import OrderDesk.Proofs.Retry.Moves
import OrderDesk.Proofs.Retry.Overflow

/-!
# Cancelling a retried operation

An operation that knows itself to be cancelled makes no further attempt and begins no further
pause.  The attempt under way still comes to its end, and its outcome is returned if it concludes
the operation; otherwise the operation draws the pause that it does not need any more, crashes if it
cannot be drawn, and returns that it was cancelled.  Without an attempt under way it returns that in
any case.  Nothing but a cancellation, or an attempt that fails so, makes it return that.
-/

namespace OrderDesk

variable {α : Type}

/-- The outcome of an attempt, if the event is one. -/
def RetryEvent.outcome? : RetryEvent α → Option (Except Failure α)
  | .outcome result _ => some result
  | _ => none

namespace RetryRun

variable {r : RetryRun α} {n : Nat} {result : Except Failure α}

/-- How a cancelled operation ends after the attempt of a number. -/
def verdict (config : RetryConfig) (n : Nat) (outcome : Except Failure α) : RetryStatus α :=
  if config.concludes n outcome then .done outcome
  else if config.overflows n then .crashed
  else .done (.error .cancelled)

/-- The outcome that the attempt under way comes to in a sequence of events. -/
def firstOutcome? (events : List (RetryEvent α)) : Option (Except Failure α) :=
  events.findSome? RetryEvent.outcome?

/-! ### Operations that have ended and attempts under way -/

/-- An operation that has ended stays as it is. -/
theorem status_step_of_ended (h : ∀ stage, r.status ≠ .active stage) (e : RetryEvent α) :
  (r.step e).status = r.status
  := by
  have m := r.step_move e
  generalize r.step e = r' at m
  cases m with
  | rest => rfl
  | cancel => rfl
  | stopped stage => exact absurd stage (h _)
  | begun stage => exact absurd stage (h _)
  | concluded word stage => exact absurd stage (h _)
  | crashed stage => exact absurd stage (h _)
  | withdrawn stage => exact absurd stage (h _)
  | retried stage => exact absurd stage (h _)
  | paused stage => exact absurd stage (h _)
  | rested stage => exact absurd stage (h _)
  | interrupted stage => exact absurd stage (h _)

theorem status_steps_of_ended (h : ∀ stage, r.status ≠ .active stage)
    (events : List (RetryEvent α)) :
  (r.steps events).status = r.status
  := by
  induction events generalizing r with
  | nil => rfl
  | cons e events ih =>
    have hstep := status_step_of_ended h e
    rw [← hstep]
    apply ih
    rw [hstep]
    exact h

theorem status_steps_of_done (h : r.status = .done result) (events : List (RetryEvent α)) :
  (r.steps events).status = .done result
  := by
  rw [← h]
  apply status_steps_of_ended
  rw [h]
  exact nofun

theorem status_steps_of_crashed (h : r.status = .crashed) (events : List (RetryEvent α)) :
  (r.steps events).status = .crashed
  := by
  rw [← h]
  apply status_steps_of_ended
  rw [h]
  exact nofun

/-- Only the outcome of an attempt ends the attempt. -/
theorem status_step_of_running (h : r.status = .active (.running n)) {e : RetryEvent α}
    (he : e.outcome? = none) :
  (r.step e).status = .active (.running n)
  := by
  cases e with
  | cancel => exact h
  | outcome outcome word => cases he
  | _ =>
    rw [step, h]
    exact h

/-! ### Cancelled operations -/

/-- An operation that is cancelled stays so. -/
theorem isCancelled_step (h : r.isCancelled = true) (e : RetryEvent α) :
  (r.step e).isCancelled = true
  := by
  have m := r.step_move e
  generalize r.step e = r' at m
  cases m with
  | cancel =>
    obtain ⟨hlistens, -⟩ := Bool.and_eq_true_iff.1 h
    exact Bool.and_eq_true_iff.2 ⟨hlistens, rfl⟩
  | _ => exact h

/-- A cancelled operation starts neither an attempt nor a pause. -/
theorem starts_nothing_step (h : r.isCancelled = true) (e : RetryEvent α) :
  (r.step e).attempts = r.attempts ∧ (r.step e).pauses = r.pauses
  := by
  have m := r.step_move e
  generalize r.step e = r' at m
  cases m with
  | begun stage running => exact absurd h (Bool.eq_false_iff.1 running)
  | paused stage continues drawn running => exact absurd h (Bool.eq_false_iff.1 running)
  | _ => exact ⟨rfl, rfl⟩

theorem starts_nothing_steps (h : r.isCancelled = true) (events : List (RetryEvent α)) :
  (r.steps events).attempts = r.attempts ∧ (r.steps events).pauses = r.pauses
  := by
  induction events generalizing r with
  | nil => exact ⟨rfl, rfl⟩
  | cons e events ih =>
    obtain ⟨hattempts, hpauses⟩ := ih (isCancelled_step h e)
    obtain ⟨hattempts', hpauses'⟩ := starts_nothing_step h e
    exact ⟨hattempts.trans hattempts', hpauses.trans hpauses'⟩

theorem isCancelled_steps (h : r.isCancelled = true) (events : List (RetryEvent α)) :
  (r.steps events).isCancelled = true
  := by
  induction events generalizing r with
  | nil => exact h
  | cons e events ih => apply ih (isCancelled_step h e)

/-- The outcome of its last attempt ends a cancelled operation. -/
theorem status_step_of_outcome (h : r.isCancelled = true) (stage : r.status = .active (.running n))
    {e : RetryEvent α} {outcome : Except Failure α} (he : e.outcome? = some outcome) :
  (r.step e).status = verdict r.config n outcome
  := by
  cases e with
  | outcome outcome' word =>
    cases he
    rw [verdict]
    rcases concludes : r.config.concludes n outcome
    · rcases overflows : r.config.overflows n
      · obtain ⟨delay, drawn⟩ := RetryConfig.exists_nextDelay? overflows word
        rw [step_outcome_of_cancelled stage concludes drawn h]
        rfl
      · have undrawn : r.config.nextDelay? n word = none :=
          RetryConfig.nextDelay?_eq_none_iff.2 overflows
        rw [step_outcome_of_undrawn stage concludes undrawn]
        rfl
    · rw [step_outcome_of_concludes stage concludes]
      rfl
  | _ => cases he

theorem verdict_ne_active (config : RetryConfig) (n : Nat) (outcome : Except Failure α)
    (stage : RetryStage) :
  verdict config n outcome ≠ .active stage
  := by
  rw [verdict]
  split
  · exact nofun
  · split
    · exact nofun
    · exact nofun

/-- A cancelled operation waits for the outcome of the attempt that is under way. -/
theorem status_steps_of_no_outcome (stage : r.status = .active (.running n))
    {events : List (RetryEvent α)} (hnone : firstOutcome? events = none) :
  (r.steps events).status = .active (.running n)
  := by
  induction events generalizing r with
  | nil => exact stage
  | cons e events ih =>
    rw [firstOutcome?, List.findSome?_cons] at hnone
    rcases he : e.outcome? with _ | outcome
    · rw [he] at hnone
      apply ih (status_step_of_running stage he) hnone
    · rw [he] at hnone
      cases hnone

/-- With the outcome of the attempt that was under way a cancelled operation ends. -/
theorem status_steps_of_outcome (h : r.isCancelled = true)
    (stage : r.status = .active (.running n)) {events : List (RetryEvent α)}
    {outcome : Except Failure α} (hfirst : firstOutcome? events = some outcome) :
  (r.steps events).status = verdict r.config n outcome
  := by
  induction events generalizing r with
  | nil => cases hfirst
  | cons e events ih =>
    rw [firstOutcome?, List.findSome?_cons] at hfirst
    rcases he : e.outcome? with _ | outcome'
    · rw [he] at hfirst
      rw [← config_step r e]
      apply ih (isCancelled_step h e) (status_step_of_running stage he) hfirst
    · rw [he] at hfirst
      cases hfirst
      have hstep := status_step_of_outcome h stage he
      have ended (stage : RetryStage) : (r.step e).status ≠ .active stage := by
        rw [hstep]
        apply verdict_ne_active
      exact (status_steps_of_ended ended events).trans hstep

/-- A status in which no attempt is under way, and the operation ends only by returning that it was
cancelled. -/
def Idle (status : RetryStatus α) : Prop :=
  status ≠ .crashed ∧ (∀ n, status ≠ .active (.running n))
    ∧ ∀ result, status = .done result → result = .error .cancelled

theorem Idle.step (h : Idle r.status) (cancelled : r.isCancelled = true) (e : RetryEvent α) :
  Idle (r.step e).status
  := by
  have m := r.step_move e
  generalize r.step e = r' at m
  cases m with
  | rest => exact h
  | cancel => exact h
  | stopped => exact ⟨nofun, nofun, by rintro _ ⟨⟩; rfl⟩
  | begun stage running => exact absurd cancelled (Bool.eq_false_iff.1 running)
  | concluded word stage => exact absurd stage (h.2.1 _)
  | crashed stage => exact absurd stage (h.2.1 _)
  | withdrawn stage => exact absurd stage (h.2.1 _)
  | retried stage => exact absurd stage (h.2.1 _)
  | paused stage => exact absurd stage (h.2.1 _)
  | rested => exact ⟨nofun, nofun, nofun⟩
  | interrupted => exact ⟨nofun, nofun, by rintro _ ⟨⟩; rfl⟩

/-- A cancelled operation without an attempt under way returns that it was cancelled, and nothing
else. -/
theorem Idle.steps (h : Idle r.status) (cancelled : r.isCancelled = true)
    (events : List (RetryEvent α)) :
  Idle (r.steps events).status
  := by
  induction events generalizing r with
  | nil => exact h
  | cons e events ih => apply ih (h.step cancelled e) (isCancelled_step cancelled e)

/-! ### Operations that are not cancelled -/

/-- Only a cancellation of the token that it was given cancels an operation. -/
theorem isCancelled_step_of_ne (h : r.isCancelled = false) {e : RetryEvent α}
    (he : r.listens = true → e ≠ .cancel) :
  (r.step e).isCancelled = false
  := by
  have m := r.step_move e
  generalize r.step e = r' at m
  cases m with
  | cancel =>
    have hlistens : r.listens = false := by
      rw [Bool.eq_false_iff]
      intro hlistens
      exact he hlistens rfl
    simp [isCancelled, hlistens]
  | _ => exact h

/-- Nothing but a cancellation makes a difference to whether an operation is cancelled. -/
theorem isCancelled_steps_of_not_mem {events : List (RetryEvent α)}
    (uncancelled : .cancel ∉ events) :
  (r.steps events).isCancelled = r.isCancelled
  := by
  induction events generalizing r with
  | nil => rfl
  | cons e events ih =>
    have hfirst : (r.step e).isCancelled = r.isCancelled := by
      have m := r.step_move e
      generalize r.step e = r' at m
      cases m with
      | cancel => exact absurd List.mem_cons_self uncancelled
      | _ => rfl
    rw [← hfirst]
    apply ih
    intro hmem
    exact uncancelled (List.mem_cons_of_mem e hmem)

/-- An operation that is not cancelled returns that it is only if an attempt fails so. -/
theorem status_step_ne_cancelled (h : r.isCancelled = false)
    (hstatus : r.status ≠ .done (.error .cancelled)) {e : RetryEvent α}
    (he : e.outcome? ≠ some (.error .cancelled)) :
  (r.step e).status ≠ .done (.error .cancelled)
  := by
  have m := r.step_move e
  generalize r.step e = r' at m
  cases m with
  | rest => exact hstatus
  | cancel => exact hstatus
  | stopped stage cancelled => exact absurd cancelled (Bool.eq_false_iff.1 h)
  | begun => exact nofun
  | concluded word stage concludes =>
    rintro ⟨⟩
    exact he rfl
  | crashed => exact nofun
  | withdrawn stage continues drawn cancelled =>
    exact absurd cancelled (Bool.eq_false_iff.1 h)
  | retried => exact nofun
  | paused => exact nofun
  | rested => exact nofun
  | interrupted stage cancelled => exact absurd cancelled (Bool.eq_false_iff.1 h)

theorem status_steps_ne_cancelled (h : r.isCancelled = false)
    (hstatus : r.status ≠ .done (.error .cancelled)) {events : List (RetryEvent α)}
    (uncancelled : r.listens = true → .cancel ∉ events)
    (houtcomes : ∀ word, .outcome (.error .cancelled) word ∉ events) :
  (r.steps events).status ≠ .done (.error .cancelled)
  := by
  induction events generalizing r with
  | nil => exact hstatus
  | cons e events ih =>
    apply ih
    · apply isCancelled_step_of_ne h
      rintro hlistens rfl
      exact uncancelled hlistens List.mem_cons_self
    · apply status_step_ne_cancelled h hstatus
      intro he
      cases e with
      | outcome outcome word =>
        cases he
        exact houtcomes word List.mem_cons_self
      | _ => cases he
    · intro hlistens hmem
      rw [listens_step] at hlistens
      exact uncancelled hlistens (List.mem_cons_of_mem e hmem)
    · intro word hmem
      exact houtcomes word (List.mem_cons_of_mem e hmem)

end RetryRun

end OrderDesk
