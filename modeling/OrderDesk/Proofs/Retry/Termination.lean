import OrderDesk.Proofs.Retry.Moves
import OrderDesk.Proofs.Retry.Overflow

/-!
# How long a retried operation goes on

At each stage a retried operation waits for one kind of event.  Every event that it waits for brings
it nearer to its end, and no other event takes it back.  So an operation has ended once it has met
three such events for each of its attempts, but for the pause that the last attempt does not need,
whatever the attempts came to.  It has ended with a result unless a pause could not be drawn.
-/

namespace OrderDesk

variable {α : Type}

/-- The number of the attempt that a stage belongs to. -/
def RetryStage.attempt : RetryStage → Nat
  | .ready n => n
  | .running n => n
  | .pausing n _ => n

theorem RetryConfig.attempts_pos (config : RetryConfig) :
  0 < config.attempts
  := Nat.le_max_left 1 config.maxAttempts.toNat

/-- Whether an operation at a stage waits for the event. -/
def RetryStage.awaits : RetryStage → RetryEvent α → Bool
  | .ready _, .resume => true
  | .running _, .outcome _ _ => true
  | .pausing _ _, .paused => true
  | _, _ => false

namespace RetryRun

variable {r : RetryRun α} {e : RetryEvent α} {stage : RetryStage}

/-- Whether the operation waits for the event. -/
def awaits (r : RetryRun α) (e : RetryEvent α) : Bool :=
  match r.status with
  | .active stage => stage.awaits e
  | _ => false

/-- The number of events in a sequence for which the operation waits when they happen. -/
def met (r : RetryRun α) : List (RetryEvent α) → Nat
  | [] => 0
  | e :: events => (if r.awaits e then 1 else 0) + (r.step e).met events

/-- The number of events that the operation still waits for, at the most. -/
def remaining (r : RetryRun α) : Nat :=
  match r.status with
  | .active (.ready n) => 3 * (r.config.attempts - n) - 1
  | .active (.running n) => 3 * (r.config.attempts - n) - 2
  | .active (.pausing n _) => 3 * (r.config.attempts - n)
  | _ => 0

/-- The operation makes no more attempts than its configuration allows. -/
def Within (r : RetryRun α) : Prop :=
  ∀ stage, r.status = .active stage → stage.attempt < r.config.attempts

theorem within_start (config : RetryConfig) (listens cancelled : Bool) :
  (start config listens cancelled : RetryRun α).Within
  := by
  rintro stage ⟨⟩
  exact config.attempts_pos

theorem Within.step (h : r.Within) (e : RetryEvent α) :
  (r.step e).Within
  := by
  have further {n : Nat} {outcome : Except Failure α}
      (continues : r.config.concludes n outcome = false) : n + 1 < r.config.attempts := by
    cases outcome with
    | ok a => cases continues
    | error failure => exact Nat.not_le.1 (RetryConfig.concludes_eq_false.1 continues).2
  have m := r.step_move e
  generalize r.step e = r' at m
  cases m with
  | rest => exact h
  | cancel => exact h
  | stopped => exact nofun
  | @begun n stage =>
    rintro _ ⟨⟩
    have hlt : n < r.config.attempts := h _ stage
    exact hlt
  | concluded => exact nofun
  | crashed => exact nofun
  | withdrawn => exact nofun
  | retried stage continues =>
    rintro _ ⟨⟩
    exact further continues
  | paused stage continues =>
    rintro _ ⟨⟩
    exact further continues
  | @rested n _ stage =>
    rintro _ ⟨⟩
    have hlt : n < r.config.attempts := h _ stage
    exact hlt
  | interrupted => exact nofun

/-- An operation that goes on waits for an event. -/
theorem Within.remaining_pos (h : r.Within) (active : r.status = .active stage) :
  0 < r.remaining
  := by
  have hlt := h stage active
  rw [remaining, active]
  cases stage with
  | ready n => change n < _ at hlt; dsimp only; omega
  | running n => change n < _ at hlt; dsimp only; omega
  | pausing n delay => change n < _ at hlt; dsimp only; omega

/-- No event takes the operation back. -/
theorem remaining_step_le (r : RetryRun α) (e : RetryEvent α) :
  (r.step e).remaining ≤ r.remaining
  := by
  have m := r.step_move e
  generalize r.step e = r' at m
  cases m with
  | rest => exact Nat.le_refl _
  | cancel => exact Nat.le_refl _
  | begun stage => rw [remaining, remaining, stage]; dsimp only; omega
  | retried stage => rw [remaining, remaining, stage]; dsimp only; omega
  | paused stage => rw [remaining, remaining, stage]; dsimp only; omega
  | rested stage => rw [remaining, remaining, stage]; dsimp only; omega
  | _ => exact Nat.zero_le _

/-- An event for which the operation waits leads it to another stage or to its end. -/
theorem status_step_ne (awaited : r.awaits e = true) :
  (r.step e).status ≠ r.status
  := by
  rcases active : r.status with stage | outcome | _
  · have awaited : stage.awaits e = true := by
      rw [← awaited, awaits, active]
    cases stage with
    | ready n =>
      cases e with
      | resume =>
        rcases cancelled : r.isCancelled
        · rw [step_resume_of_running active cancelled]
          exact nofun
        · rw [step_resume_of_cancelled active cancelled]
          exact nofun
      | _ => cases awaited
    | running n =>
      cases e with
      | outcome outcome word =>
        rw [status_step_outcome active]
        cases outcome with
        | ok a => exact nofun
        | error failure =>
          generalize hnext : RetryStage.afterAttempt _ _ _ _ _ = next
          cases RetryStage.aftermath hnext with
          | _ => exact nofun
      | _ => cases awaited
    | pausing n delay =>
      cases e with
      | paused =>
        rw [step_paused active]
        exact nofun
      | _ => cases awaited
  all_goals
    rw [awaits, active] at awaited
    cases awaited

/-- An event for which the operation waits brings it nearer to its end. -/
theorem Within.remaining_step_lt (h : r.Within) (awaited : r.awaits e = true) :
  (r.step e).remaining < r.remaining
  := by
  have changed := status_step_ne awaited
  have m := r.step_move e
  generalize r.step e = r' at m changed
  cases m with
  | rest => exact absurd rfl changed
  | cancel => exact absurd rfl changed
  | stopped stage => exact h.remaining_pos stage
  | @begun n stage =>
    have hlt : n < r.config.attempts := h _ stage
    rw [remaining, remaining, stage]
    dsimp only
    omega
  | concluded word stage => exact h.remaining_pos stage
  | crashed stage => exact h.remaining_pos stage
  | withdrawn stage => exact h.remaining_pos stage
  | @retried n _ _ _ stage =>
    have hlt : n < r.config.attempts := h _ stage
    rw [remaining, remaining, stage]
    dsimp only
    omega
  | @paused n _ _ _ stage =>
    have hlt : n < r.config.attempts := h _ stage
    rw [remaining, remaining, stage]
    dsimp only
    omega
  | @rested n _ stage =>
    have hlt : n < r.config.attempts := h _ stage
    rw [remaining, remaining, stage]
    dsimp only
    omega
  | interrupted stage => exact h.remaining_pos stage

theorem Within.steps (h : r.Within) (events : List (RetryEvent α)) :
  (r.steps events).Within
  := by
  induction events generalizing r with
  | nil => exact h
  | cons e events ih => apply ih (h.step e)

/-- The events that an operation has met and those that it still waits for are no more than those
that it waited for at first. -/
theorem Within.met_add_remaining_le (h : r.Within) (events : List (RetryEvent α)) :
  r.met events + (r.steps events).remaining ≤ r.remaining
  := by
  induction events generalizing r with
  | nil => exact Nat.le_of_eq (Nat.zero_add _)
  | cons e events ih =>
    have hrest : (r.step e).met events + (r.steps (e :: events)).remaining
        ≤ (r.step e).remaining := ih (h.step e)
    rw [met]
    split
    next awaited =>
      have hlt := h.remaining_step_lt awaited
      omega
    next =>
      have hle := r.remaining_step_le e
      omega

/-- A retried operation has ended when it has met three events for each attempt but the one pause
that is never needed. -/
theorem ended_of_met (config : RetryConfig) (listens cancelled : Bool)
    {events : List (RetryEvent α)}
    (enough : 3 * config.attempts ≤ (start config listens cancelled).met events + 1) :
  (∃ outcome, ((start config listens cancelled).steps events).status = .done outcome)
    ∨ ((start config listens cancelled).steps events).status = .crashed
  := by
  have within : (start config listens cancelled : RetryRun α).Within :=
    within_start config listens cancelled
  have hle := within.met_add_remaining_le events
  have hstart : (start config listens cancelled : RetryRun α).remaining
      = 3 * config.attempts - 1 := rfl
  rcases active : ((start config listens cancelled).steps events).status with stage | outcome | _
  · have hpos := (within.steps events).remaining_pos active
    have hattempts := config.attempts_pos
    omega
  · exact .inl ⟨outcome, rfl⟩
  · exact .inr rfl

/-- An operation whose pauses can be drawn does not crash. -/
theorem status_step_ne_crashed (drawable : ∀ k, r.config.overflows k = false)
    (h : r.status ≠ .crashed) (e : RetryEvent α) :
  (r.step e).status ≠ .crashed
  := by
  have m := r.step_move e
  generalize r.step e = r' at m
  cases m with
  | rest => exact h
  | cancel => exact h
  | crashed stage continues undrawn =>
    have overflows := RetryConfig.nextDelay?_eq_none_iff.1 undrawn
    rw [drawable] at overflows
    cases overflows
  | _ => exact nofun

theorem status_steps_ne_crashed (drawable : ∀ k, r.config.overflows k = false)
    (h : r.status ≠ .crashed) (events : List (RetryEvent α)) :
  (r.steps events).status ≠ .crashed
  := by
  induction events generalizing r with
  | nil => exact h
  | cons e events ih =>
    apply ih
    · rw [config_step]
      exact drawable
    · exact status_step_ne_crashed drawable h e

end RetryRun

end OrderDesk
