import OrderDesk.Proofs.Desk.Acceptance
import OrderDesk.Proofs.Desk.Frame
import OrderDesk.Proofs.Retry.Cancellation

/-!
# Cancellation stops all work

Once the token is cancelled, a retried operation makes no further attempt and begins no further
pause, and returns that it was cancelled, unless the attempt under way concludes it or the pause
after that attempt cannot be drawn: pauses are drawn before the operation looks at its token.  At a
desk with a token no operation calls the venue any more.
-/

namespace OrderDesk

namespace Desk

variable {d : Desk}

/-- While its operations are cancelled a desk makes no call to the venue. -/
theorem not_called_of_isCancelled (h : d.isCancelled = true) (e : DeskEvent) (t : Ticket)
    (call : VenueCall) :
  .called t call ∉ (d.step e).2
  := by
  intro hcalled
  obtain ⟨task, n, word, limiter, -, -, -, -, running, -, -⟩ := step_of_called hcalled
  exact absurd h (Bool.eq_false_iff.1 running)

/-- No work is started after a cancellation.  However a retried operation has come to its state
when its token is cancelled, it makes no further attempt and begins no further pause, whatever
happens then.  If it has returned, that result stands; if an attempt is under way, the operation
waits for its outcome and returns it if it is a success, may not be retried or is that of the last
attempt.  Otherwise it crashes if the pause that it would make next cannot be drawn, which is so
exactly if there is one and the jitter is at least about half the greatest double, and for no valid
configuration; if the pause can be drawn, it returns that it was cancelled.  In every other case it
returns that it was cancelled, and nothing keeps it from that: it does so as soon as it goes on,
also from a pause that never ends.  An operation whose token is never cancelled returns that it was
cancelled only if an attempt fails so.  At a desk with a token no operation calls the venue after
the cancellation. -/
theorem no_work_after_cancellation (α : Type) :
  (∀ config cancelled, ∀ before after : List (RetryEvent α),
    let r := (RetryRun.start config true cancelled).steps before
    let now := (r.step .cancel).steps after
    now.attempts = r.attempts ∧ now.pauses = r.pauses
    ∧ (∀ result, r.status = .done result → now.status = .done result)
    ∧ (r.status = .crashed → now.status = .crashed)
    ∧ (∀ n, r.status = .active (.running n) →
        (RetryRun.firstOutcome? after = none → now.status = .active (.running n))
        ∧ ∀ outcome, RetryRun.firstOutcome? after = some outcome →
          now.status = if config.concludes n outcome then .done outcome
            else if config.overflows n then .crashed
            else .done (.error .cancelled))
    ∧ (∀ stage, r.status = .active stage → (∀ n, stage ≠ .running n) →
        now.status ≠ .crashed ∧ (∀ n, now.status ≠ .active (.running n))
        ∧ ∀ result, now.status = .done result → result = .error .cancelled)
    ∧ (∀ n, now.status = .active (.ready n) →
        (now.step .resume).status = .done (.error .cancelled))
    ∧ ∀ n delay, now.status = .active (.pausing n delay) →
        (now.step .interrupted).status = .done (.error .cancelled)
        ∧ ((now.step .paused).step .resume).status = .done (.error .cancelled))
  ∧ (∀ (config : RetryConfig) n, config.overflows n = true
      ↔ config.baseDelayFor n ≠ .zero
        ∧ ∃ m, config.jitter = .finite false m ∧ RetryConfig.leastOverflowing.rank ≤ m.rank)
  ∧ (∀ config : RetryConfig, config.fault? = none → ∀ n, config.overflows n = false)
  ∧ (∀ config listens cancelled, ∀ events : List (RetryEvent α),
      (listens = true → cancelled = false ∧ .cancel ∉ events) →
      (∀ word, .outcome (.error .cancelled) word ∉ events) →
      ((RetryRun.start config listens cancelled).steps events).status
        ≠ .done (.error .cancelled))
  ∧ ∀ venue retry limiter cancelled before after,
      let d := (opened venue retry limiter (some cancelled)).after before
      let now := (d.step .cancel).1.after after
      ∀ e t call, .called t call ∉ (now.step e).2
  := by
  refine ⟨?_, fun config n => RetryConfig.overflows_iff, ?_, ?_, ?_⟩
  · intro config cancelled before after r now
    have hlistens : r.listens = true := RetryRun.listens_steps _ before
    have hconfig : r.config = config := RetryRun.config_steps _ before
    have hcancelled : (r.step .cancel).isCancelled = true := by
      simp [RetryRun.step, RetryRun.isCancelled, hlistens]
    have hnow : now.isCancelled = true := RetryRun.isCancelled_steps hcancelled after
    obtain ⟨hattempts, hpauses⟩ := RetryRun.starts_nothing_steps hcancelled after
    refine ⟨hattempts, hpauses, ?_, ?_, ?_, ?_, ?_, ?_⟩
    · intro result hdone
      apply RetryRun.status_steps_of_done (r := r.step .cancel) hdone after
    · intro hcrashed
      apply RetryRun.status_steps_of_crashed (r := r.step .cancel) hcrashed after
    · intro n hrunning
      have hwaiting : (r.step .cancel).status = .active (.running n) := hrunning
      constructor
      · exact RetryRun.status_steps_of_no_outcome hwaiting
      · intro outcome hfirst
        rw [← hconfig]
        apply RetryRun.status_steps_of_outcome hcancelled hwaiting hfirst
    · intro stage hstage hidle
      have hstart : RetryRun.Idle (r.step .cancel).status := by
        have hstatus : (r.step .cancel).status = .active stage := hstage
        rw [hstatus]
        refine ⟨by simp, ?_, by simp⟩
        intro n heq
        apply hidle n (RetryStatus.active.inj heq)
      exact hstart.steps hcancelled after
    · intro n hready
      rw [RetryRun.step_resume_of_cancelled hready hnow]
    · intro n delay hpausing
      rw [RetryRun.step_interrupted hpausing hnow, RetryRun.step_paused hpausing]
      let rested : RetryRun α := { now with status := .active (.ready n) }
      have hresume := RetryRun.step_resume_of_cancelled (r := rested) rfl hnow
      exact ⟨rfl, congrArg RetryRun.status hresume⟩
  · intro config faultless
    exact (RetryConfig.fault?_eq_none_iff.1 faultless).overflows_eq_false
  · intro config listens cancelled events uncancelled houtcomes
    have hevents : listens = true → .cancel ∉ events := fun hlistens => (uncancelled hlistens).2
    apply RetryRun.status_steps_ne_cancelled _ _ hevents houtcomes
    · rw [RetryRun.isCancelled, Bool.eq_false_iff]
      intro h
      obtain ⟨hlistens, hcancelled⟩ := Bool.and_eq_true_iff.1 h
      have huncancelled : cancelled = false := (uncancelled hlistens).1
      exact absurd hcancelled (Bool.eq_false_iff.1 huncancelled)
    · rintro ⟨⟩
  · intro venue retry limiter cancelled before after d now e t call
    have htoken : d.token.isSome = true := isSome_token_after _ before
    have hnow : now.isCancelled = true :=
      isCancelled_after (isCancelled_step_cancel htoken) after
    apply not_called_of_isCancelled hnow

/-- The standard configuration with a jitter of ten to the power of 308, which cannot be drawn
from. -/
def overflowing : RetryConfig := { RetryConfig.standard with jitter := .ofDecimal false 1 308 }

/-- An operation whose token is cancelled during its first of three attempts, which then fails in a
way that may be retried, crashes with such a jitter and returns nothing. -/
theorem cancelled_operation_crashes :
  let failure : Failure := .retryable (.transient "slow")
  let r : RetryRun Unit := (RetryRun.start overflowing true false).steps [.resume, .cancel]
  r.status = .active (.running 0) ∧ r.isCancelled = true
  ∧ overflowing.concludes 0 (.error failure : Except Failure Unit) = false
  ∧ (r.step (.outcome (.error failure) 0)).status = .crashed
  := by decide +kernel

end Desk

end OrderDesk
