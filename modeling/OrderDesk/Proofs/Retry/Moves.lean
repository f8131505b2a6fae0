import OrderDesk.Retry.Run

/-!
# The moves of a retried operation

What an event can do to a retried operation, as a relation: `Move r e r'` has one constructor for
each way in which the operation gets on, and `step_move` says that every step is a move.  An
outcome `concludes` the operation when it is a success, a failure that may not be retried, or the
outcome of the last attempt; only such an outcome is returned, cancelled or not.  After any other
outcome a pause is drawn first, and the operation crashes if it cannot be.
-/

namespace OrderDesk

variable {α : Type}

/-- Whether the outcome of an attempt ends the operation whatever the token says. -/
def RetryConfig.concludes (config : RetryConfig) (attempt : Nat) : Except Failure α → Bool
  | .ok _ => true
  | .error failure => !failure.isRetryable || decide (config.attempts ≤ attempt + 1)

/-- What does not conclude an operation is a failure that may be retried and that is not the
last. -/
theorem RetryConfig.concludes_eq_false {config : RetryConfig} {attempt : Nat} {failure : Failure} :
  config.concludes attempt (.error failure : Except Failure α) = false
    ↔ failure.isRetryable = true ∧ ¬config.attempts ≤ attempt + 1
  := by
  rw [concludes, Bool.or_eq_false_iff, Bool.not_eq_false', decide_eq_false_iff_not]

namespace RetryStage

variable {config : RetryConfig} {attempt : Nat} {outcome : Except Failure α}

/-- An outcome that concludes the operation is returned. -/
theorem afterAttempt_of_concludes (h : config.concludes attempt outcome = true) (cancelled : Bool)
    (word : UInt64) :
  afterAttempt config cancelled word attempt outcome = .finish outcome
  := by
  cases outcome with
  | ok a => rfl
  | error failure =>
    rw [RetryConfig.concludes, Bool.or_eq_true, Bool.not_eq_true', decide_eq_true_eq] at h
    rw [afterAttempt, afterFailure]
    obtain hfatal | hlast := h
    · rw [if_pos (by simp [hfatal])]
    · split
      · rfl
      · rfl

/-- After any other outcome an operation whose pause cannot be drawn crashes, cancelled or not. -/
theorem afterAttempt_of_undrawn {word : UInt64} (h : config.concludes attempt outcome = false)
    (undrawn : config.nextDelay? attempt word = none) (cancelled : Bool) :
  afterAttempt config cancelled word attempt outcome = .crash
  := by
  cases outcome with
  | ok a => cases h
  | error failure =>
    obtain ⟨hretryable, hmore⟩ := RetryConfig.concludes_eq_false.1 h
    rw [afterAttempt, afterFailure, if_neg (by simp [hretryable]), if_neg hmore, undrawn]

/-- Once the pause has been drawn, a cancelled operation ends. -/
theorem afterAttempt_of_cancelled {word : UInt64} {delay : Duration}
    (h : config.concludes attempt outcome = false)
    (drawn : config.nextDelay? attempt word = some delay) :
  afterAttempt config true word attempt outcome = .finish (.error .cancelled)
  := by
  cases outcome with
  | ok a => cases h
  | error failure =>
    obtain ⟨hretryable, hmore⟩ := RetryConfig.concludes_eq_false.1 h
    rw [afterAttempt, afterFailure, if_neg (by simp [hretryable]), if_neg hmore, drawn]
    exact if_pos rfl

/-- Otherwise the pause before the next attempt follows, unless it is empty. -/
theorem afterAttempt_of_goesOn {word : UInt64} {delay : Duration}
    (h : config.concludes attempt outcome = false)
    (drawn : config.nextDelay? attempt word = some delay) :
  afterAttempt config false word attempt outcome
    = if delay.isZero then .goOn (.ready (attempt + 1)) else .goOn (.pausing (attempt + 1) delay)
  := by
  cases outcome with
  | ok a => cases h
  | error failure =>
    obtain ⟨hretryable, hmore⟩ := RetryConfig.concludes_eq_false.1 h
    rw [afterAttempt, afterFailure, if_neg (by simp [hretryable]), if_neg hmore, drawn]
    exact if_neg Bool.false_ne_true

/-- What follows an attempt that has failed. -/
inductive Aftermath (config : RetryConfig) (cancelled : Bool) (word : UInt64) (attempt : Nat)
    (failure : Failure) : RetryStep α → Prop where
  /-- The failure may not be retried, or the attempt was the last one. -/
  | fails (last : failure.isRetryable = true → config.attempts ≤ attempt + 1) :
      Aftermath config cancelled word attempt failure (.finish (.error failure))
  /-- The pause cannot be drawn. -/
  | crashed (more : attempt + 1 < config.attempts)
      (undrawn : config.nextDelay? attempt word = none) :
      Aftermath config cancelled word attempt failure .crash
  | withdrawn (more : attempt + 1 < config.attempts) (stopped : cancelled = true) :
      Aftermath config cancelled word attempt failure (.finish (.error .cancelled))
  /-- The next attempt follows without a pause. -/
  | retried {delay : Duration} (more : attempt + 1 < config.attempts)
      (drawn : config.nextDelay? attempt word = some delay) (empty : delay.isZero = true) :
      Aftermath config cancelled word attempt failure (.goOn (.ready (attempt + 1)))
  | paused {delay : Duration} (more : attempt + 1 < config.attempts)
      (drawn : config.nextDelay? attempt word = some delay) :
      Aftermath config cancelled word attempt failure (.goOn (.pausing (attempt + 1) delay))

theorem aftermath {cancelled : Bool} {word : UInt64} {failure : Failure} {next : RetryStep α}
    (h : afterFailure config cancelled word attempt failure = next) :
  Aftermath config cancelled word attempt failure next
  := by
  rw [← h, afterFailure]
  split
  next unretried =>
    apply Aftermath.fails
    intro retryable
    exact absurd retryable unretried
  · split
    next last => exact .fails fun _ => last
    next more =>
      have more : attempt + 1 < config.attempts := Nat.not_le.1 more
      split
      next undrawn => exact .crashed more undrawn
      next delay drawn =>
        split
        next stopped => exact .withdrawn more stopped
        · split
          next empty => exact .retried more drawn empty
          · exact .paused more drawn

end RetryStage

/-- Where a step of a retried operation leaves it. -/
def RetryStep.status : RetryStep α → RetryStatus α
  | .goOn stage => .active stage
  | .finish result => .done result
  | .crash => .crashed

namespace RetryRun

theorem status_enter (r : RetryRun α) (next : RetryStep α) :
  (r.enter next).status = next.status
  := by
  cases next with
  | finish result => rfl
  | crash => rfl
  | goOn stage =>
    cases stage with
    | _ => rfl

/-- The operation after an event. -/
inductive Move (r : RetryRun α) : RetryEvent α → RetryRun α → Prop where
  /-- The event does not fit the stage. -/
  | rest (e : RetryEvent α) : Move r e r
  | cancel : Move r .cancel { r with cancelled := true }
  /-- The operation is cancelled before an attempt. -/
  | stopped {n : Nat} (stage : r.status = .active (.ready n)) (cancelled : r.isCancelled = true) :
      Move r .resume { r with status := .done (.error .cancelled) }
  | begun {n : Nat} (stage : r.status = .active (.ready n)) (running : r.isCancelled = false) :
      Move r .resume { r with status := .active (.running n), attempts := r.attempts + 1 }
  /-- The outcome of an attempt is returned. -/
  | concluded {n : Nat} {outcome : Except Failure α} (word : UInt64)
      (stage : r.status = .active (.running n))
      (concludes : r.config.concludes n outcome = true) :
      Move r (.outcome outcome word) { r with status := .done outcome }
  /-- The pause after an attempt that another one would follow cannot be drawn. -/
  | crashed {n : Nat} {outcome : Except Failure α} {word : UInt64}
      (stage : r.status = .active (.running n))
      (continues : r.config.concludes n outcome = false)
      (undrawn : r.config.nextDelay? n word = none) :
      Move r (.outcome outcome word) { r with status := .crashed }
  /-- The operation is cancelled after an attempt that another one would follow. -/
  | withdrawn {n : Nat} {outcome : Except Failure α} {word : UInt64} {delay : Duration}
      (stage : r.status = .active (.running n))
      (continues : r.config.concludes n outcome = false)
      (drawn : r.config.nextDelay? n word = some delay) (cancelled : r.isCancelled = true) :
      Move r (.outcome outcome word) { r with status := .done (.error .cancelled) }
  /-- The next attempt follows without a pause. -/
  | retried {n : Nat} {outcome : Except Failure α} {word : UInt64} {delay : Duration}
      (stage : r.status = .active (.running n))
      (continues : r.config.concludes n outcome = false)
      (drawn : r.config.nextDelay? n word = some delay) (running : r.isCancelled = false)
      (empty : delay.isZero = true) :
      Move r (.outcome outcome word) { r with status := .active (.ready (n + 1)) }
  | paused {n : Nat} {outcome : Except Failure α} {word : UInt64} {delay : Duration}
      (stage : r.status = .active (.running n))
      (continues : r.config.concludes n outcome = false)
      (drawn : r.config.nextDelay? n word = some delay) (running : r.isCancelled = false)
      (lasting : delay.isZero = false) :
      Move r (.outcome outcome word)
        { r with status := .active (.pausing (n + 1) delay), pauses := r.pauses ++ [delay] }
  | rested {n : Nat} {delay : Duration} (stage : r.status = .active (.pausing n delay)) :
      Move r .paused { r with status := .active (.ready n) }
  | interrupted {n : Nat} {delay : Duration} (stage : r.status = .active (.pausing n delay))
      (cancelled : r.isCancelled = true) :
      Move r .interrupted { r with status := .done (.error .cancelled) }

variable {r : RetryRun α} {n : Nat} {outcome : Except Failure α}

/-! ### Steps at each stage -/

theorem step_resume_of_cancelled (stage : r.status = .active (.ready n))
    (cancelled : r.isCancelled = true) :
  r.step .resume = { r with status := .done (.error .cancelled) }
  := by
  rw [step, stage]
  simp only [RetryStage.begin, cancelled]
  rfl

theorem step_resume_of_running (stage : r.status = .active (.ready n))
    (running : r.isCancelled = false) :
  r.step .resume = { r with status := .active (.running n), attempts := r.attempts + 1 }
  := by
  rw [step, stage]
  simp only [RetryStage.begin, running]
  rfl

theorem step_outcome_of_concludes (stage : r.status = .active (.running n))
    (concludes : r.config.concludes n outcome = true) (word : UInt64) :
  r.step (.outcome outcome word) = { r with status := .done outcome }
  := by
  rw [step, stage]
  simp only [RetryStage.afterAttempt_of_concludes concludes]
  rfl

theorem step_outcome_of_undrawn {word : UInt64} (stage : r.status = .active (.running n))
    (continues : r.config.concludes n outcome = false)
    (undrawn : r.config.nextDelay? n word = none) :
  r.step (.outcome outcome word) = { r with status := .crashed }
  := by
  rw [step, stage]
  simp only [RetryStage.afterAttempt_of_undrawn continues undrawn]
  rfl

section

variable {word : UInt64} {delay : Duration}

theorem step_outcome_of_cancelled (stage : r.status = .active (.running n))
    (continues : r.config.concludes n outcome = false)
    (drawn : r.config.nextDelay? n word = some delay) (cancelled : r.isCancelled = true) :
  r.step (.outcome outcome word) = { r with status := .done (.error .cancelled) }
  := by
  rw [step, stage]
  simp only [cancelled, RetryStage.afterAttempt_of_cancelled continues drawn]
  rfl

theorem step_outcome_of_isZero (stage : r.status = .active (.running n))
    (continues : r.config.concludes n outcome = false)
    (drawn : r.config.nextDelay? n word = some delay) (running : r.isCancelled = false)
    (empty : delay.isZero = true) :
  r.step (.outcome outcome word) = { r with status := .active (.ready (n + 1)) }
  := by
  rw [step, stage]
  simp only [running, RetryStage.afterAttempt_of_goesOn continues drawn, empty, if_true]
  rfl

theorem step_outcome_of_not_isZero (stage : r.status = .active (.running n))
    (continues : r.config.concludes n outcome = false)
    (drawn : r.config.nextDelay? n word = some delay) (running : r.isCancelled = false)
    (lasting : delay.isZero = false) :
  r.step (.outcome outcome word)
    = { r with status := .active (.pausing (n + 1) delay), pauses := r.pauses ++ [delay] }
  := by
  rw [step, stage]
  simp only [running, RetryStage.afterAttempt_of_goesOn continues drawn, lasting,
    Bool.false_eq_true, if_false]
  rfl

end

theorem step_paused {delay : Duration} (stage : r.status = .active (.pausing n delay)) :
  r.step .paused = { r with status := .active (.ready n) }
  := by
  rw [step, stage]

theorem step_interrupted {delay : Duration} (stage : r.status = .active (.pausing n delay))
    (cancelled : r.isCancelled = true) :
  r.step .interrupted = { r with status := .done (.error .cancelled) }
  := by
  rw [step, stage]
  simp only [cancelled, if_true]

/-- An attempt leaves the operation where its outcome leads. -/
theorem status_step_outcome (stage : r.status = .active (.running n))
    (outcome : Except Failure α) (word : UInt64) :
  (r.step (.outcome outcome word)).status
    = (RetryStage.afterAttempt r.config r.isCancelled word n outcome).status
  := by
  rw [step, stage]
  apply status_enter

/-- The outcome of an attempt leads to the end, to the next attempt or to the pause before it. -/
theorem outcome_move (stage : r.status = .active (.running n)) (outcome : Except Failure α)
    (word : UInt64) :
  r.Move (.outcome outcome word) (r.step (.outcome outcome word))
  := by
  rcases concludes : r.config.concludes n outcome
  · rcases drawn : r.config.nextDelay? n word with _ | delay
    · rw [step_outcome_of_undrawn stage concludes drawn]
      exact .crashed stage concludes drawn
    · rcases cancelled : r.isCancelled
      · rcases empty : delay.isZero
        · rw [step_outcome_of_not_isZero stage concludes drawn cancelled empty]
          exact .paused stage concludes drawn cancelled empty
        · rw [step_outcome_of_isZero stage concludes drawn cancelled empty]
          exact .retried stage concludes drawn cancelled empty
      · rw [step_outcome_of_cancelled stage concludes drawn cancelled]
        exact .withdrawn stage concludes drawn cancelled
  · rw [step_outcome_of_concludes stage concludes word]
    exact .concluded word stage concludes

/-- Every step is a move. -/
theorem step_move (r : RetryRun α) (e : RetryEvent α) :
  r.Move e (r.step e)
  := by
  cases e with
  | cancel => exact .cancel
  | resume =>
    rcases stage : r.status with (n | n | _) | _ | _
    · rcases cancelled : r.isCancelled
      · rw [step_resume_of_running stage cancelled]
        exact .begun stage cancelled
      · rw [step_resume_of_cancelled stage cancelled]
        exact .stopped stage cancelled
    all_goals
      rw [step, stage]
      exact .rest _
  | outcome outcome word =>
    rcases stage : r.status with (_ | n | _) | _ | _
    case active.running => apply outcome_move stage
    all_goals
      rw [step, stage]
      exact .rest _
  | paused =>
    rcases stage : r.status with (_ | _ | ⟨n, delay⟩) | _ | _
    case active.pausing =>
      rw [step_paused stage]
      exact .rested stage
    all_goals
      rw [step, stage]
      exact .rest _
  | interrupted =>
    rcases stage : r.status with (_ | _ | ⟨n, delay⟩) | _ | _
    case active.pausing =>
      rcases cancelled : r.isCancelled
      · rw [step, stage]
        simp only [cancelled, Bool.false_eq_true, if_false]
        exact .rest _
      · rw [step_interrupted stage cancelled]
        exact .interrupted stage cancelled
    all_goals
      rw [step, stage]
      exact .rest _

/-! ### What no step changes -/

@[simp]
theorem config_step (r : RetryRun α) (e : RetryEvent α) :
  (r.step e).config = r.config
  := by
  have m := r.step_move e
  generalize r.step e = r' at m
  cases m with
  | _ => rfl

@[simp]
theorem listens_step (r : RetryRun α) (e : RetryEvent α) :
  (r.step e).listens = r.listens
  := by
  have m := r.step_move e
  generalize r.step e = r' at m
  cases m with
  | _ => rfl

theorem config_steps (r : RetryRun α) (events : List (RetryEvent α)) :
  (r.steps events).config = r.config
  := by
  induction events generalizing r with
  | nil => rfl
  | cons e events ih => exact (ih _).trans (r.config_step e)

theorem listens_steps (r : RetryRun α) (events : List (RetryEvent α)) :
  (r.steps events).listens = r.listens
  := by
  induction events generalizing r with
  | nil => rfl
  | cons e events ih => exact (ih _).trans (r.listens_step e)

end RetryRun

end OrderDesk
