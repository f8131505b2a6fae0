import Mathlib.Data.Nat.Find
import Mathlib.Logic.Function.Iterate
import Mathlib.Tactic.Use
import OrderDesk.Proofs.Retry.Moves
import OrderDesk.Proofs.Retry.Overflow

/-!
# What a retried operation does

A `RetryCourse` is everything that a retried operation meets when nobody cancels it: how each
attempt that may be made would end, how its failures are judged, and the random words that the
pauses are drawn from.  The operation then makes attempts up to the first one that concludes it,
pauses between them, and returns the outcome of the last, unless it crashes before because a pause
cannot be drawn.
-/

namespace OrderDesk

variable {ε α : Type}

/-- What a retried operation meets, for as many attempts as it may make. -/
structure RetryCourse (ε α : Type) where
  /-- How the attempt of each number would end. -/
  outcome : Nat → Except ε α
  /-- How failed attempts are judged. -/
  judge : ε → Failure
  /-- The random word that the pause after an attempt is drawn from. -/
  word : Nat → UInt64

namespace RetryCourse

/-- The outcome of an attempt after the judgement. -/
def judged (c : RetryCourse ε α) (n : Nat) : Except Failure α := (c.outcome n).mapError c.judge

/-- The event that an operation meets at a stage. -/
def event (c : RetryCourse ε α) : RetryStage → RetryEvent α
  | .ready _ => .resume
  | .running n => .outcome (c.judged n) (c.word n)
  | .pausing _ _ => .paused

end RetryCourse

/-- What a retried operation asks of its surroundings. -/
inductive RetryAct where
  | attempt
  | pause (delay : Duration)
deriving DecidableEq

/-- The pauses before the first so many retries, those that are not empty. -/
def lastingPauses (d : Nat → Duration) (n : Nat) : List Duration :=
  ((List.range n).map d).filter fun delay => !delay.isZero

/-- What is asked for between an attempt and the next: the pause, unless it is empty, and then
the attempt. -/
def retryActs (d : Nat → Duration) (n : Nat) : List RetryAct :=
  if (d n).isZero then [.attempt] else [.pause (d n), .attempt]

namespace RetryRun

/-- What an operation has asked for between two states. -/
def acts (r r' : RetryRun α) : List RetryAct :=
  List.replicate (r'.attempts - r.attempts) .attempt
    ++ (r'.pauses.drop r.pauses.length).map .pause

/-- The operation after what it meets next on its course. -/
def carryOn (c : RetryCourse ε α) (r : RetryRun α) : RetryRun α :=
  match r.status with
  | .active stage => r.step (c.event stage)
  | _ => r

/-- What an operation asks for in so many steps of its course, in order. -/
def trace (c : RetryCourse ε α) (r : RetryRun α) : Nat → List RetryAct
  | 0 => []
  | m + 1 => r.acts (r.carryOn c) ++ (r.carryOn c).trace c m

variable {c : RetryCourse ε α} {r : RetryRun α} {n : Nat}

/-! ### Steps on a course -/

@[simp]
theorem acts_self (r : RetryRun α) :
  r.acts r = []
  := by
  simp [acts]

theorem carryOn_of_active {stage : RetryStage} (h : r.status = .active stage) :
  r.carryOn c = r.step (c.event stage)
  := by
  rw [carryOn, h]

/-- An operation that has ended does nothing any more. -/
theorem stays_of_ended (h : ∀ stage, r.status ≠ .active stage) (m : Nat) :
  (carryOn c)^[m] r = r ∧ r.trace c m = []
  := by
  have hstays : r.carryOn c = r := by
    rw [carryOn]
    split
    next stage active => exact absurd active (h stage)
    · rfl
  induction m with
  | zero => exact ⟨rfl, rfl⟩
  | succ m ih =>
    rw [Function.iterate_succ_apply, trace, hstays, acts_self]
    exact ih

theorem trace_add (c : RetryCourse ε α) (r : RetryRun α) (m k : Nat) :
  r.trace c (m + k) = r.trace c m ++ ((carryOn c)^[m] r).trace c k
  := by
  induction m generalizing r with
  | zero => rw [Nat.zero_add, trace, List.nil_append, Function.iterate_zero_apply]
  | succ m ih =>
    rw [Nat.succ_add, trace, trace, ih, Function.iterate_succ_apply, List.append_assoc]

/-- On its course the operation comes to another state, and on the way asks for something. -/
def Comes (c : RetryCourse ε α) (r : RetryRun α) (asked : List RetryAct) (r' : RetryRun α) : Prop :=
  ∃ m, (carryOn c)^[m] r = r' ∧ r.trace c m = asked

theorem Comes.step {stage : RetryStage} {asked : List RetryAct} {r' : RetryRun α}
    (h : r.status = .active stage) (hstep : r.step (c.event stage) = r')
    (hasked : r.acts r' = asked) :
  Comes c r asked r'
  := by
  have hnext : r.carryOn c = r' := (carryOn_of_active h).trans hstep
  use 1
  rw [Function.iterate_one, trace, trace, List.append_nil, hnext]
  exact ⟨rfl, hasked⟩

theorem Comes.trans {r' r'' : RetryRun α} {asked asked' : List RetryAct} (h : Comes c r asked r')
    (h' : Comes c r' asked' r'') :
  Comes c r (asked ++ asked') r''
  := by
  obtain ⟨m, rfl, rfl⟩ := h
  obtain ⟨k, rfl, rfl⟩ := h'
  use m + k
  rw [trace_add, Nat.add_comm m k, Function.iterate_add_apply]
  exact ⟨rfl, rfl⟩

/-! ### One attempt after the other -/

/-- An operation that waits for the outcome of an attempt, with all that it has asked for. -/
def waitingFor (config : RetryConfig) (listens : Bool) (d : Nat → Duration) (n : Nat) :
    RetryRun α where
  config
  listens
  cancelled := false
  status := .active (.running n)
  attempts := n + 1
  pauses := lastingPauses d n

variable {config : RetryConfig} {listens : Bool} {d : Nat → Duration}

theorem isCancelled_waitingFor :
  (waitingFor config listens d n : RetryRun α).isCancelled = false
  := Bool.and_false listens

/-- The operation begins with an attempt. -/
theorem comes_start :
  Comes c (start config listens false) [.attempt] (waitingFor config listens d 0)
  := by
  have running : (start config listens false : RetryRun α).isCancelled = false :=
    Bool.and_false listens
  have ready : (start config listens false : RetryRun α).status = .active (.ready 0) := rfl
  apply Comes.step ready (step_resume_of_running ready running)
  simp [acts, start]

/-- An outcome that does not conclude the operation is followed by the next attempt, once the pause
has been drawn. -/
theorem comes_retry (continues : config.concludes n (c.judged n) = false)
    (drawn : config.nextDelay? n (c.word n) = some (d n)) :
  Comes c (waitingFor config listens d n) (retryActs d n) (waitingFor config listens d (n + 1))
  := by
  let r : RetryRun α := waitingFor config listens d n
  have running : r.isCancelled = false := isCancelled_waitingFor
  rcases empty : (d n).isZero
  · let pausing : RetryRun α := { r with
      status := .active (.pausing (n + 1) (d n))
      pauses := r.pauses ++ [d n] }
    let ready : RetryRun α := { pausing with status := .active (.ready (n + 1)) }
    have hpauses : lastingPauses d (n + 1) = lastingPauses d n ++ [d n] := by
      simp [lastingPauses, List.range_succ, empty]
    have hpause : Comes c r [.pause (d n)] pausing := by
      apply Comes.step rfl
        (step_outcome_of_not_isZero (r := r) rfl continues drawn running empty)
      simp [acts, pausing]
    have hrest : Comes c pausing [] ready := by
      apply Comes.step rfl (step_paused rfl)
      simp [acts, ready]
    have hnext : Comes c ready [.attempt] (waitingFor config listens d (n + 1)) := by
      rw [waitingFor, hpauses]
      apply Comes.step rfl (step_resume_of_running (r := ready) rfl running)
      simp [acts, ready, pausing, r, waitingFor]
    rw [retryActs, empty, if_neg Bool.false_ne_true]
    apply (hpause.trans hrest).trans hnext
  · let ready : RetryRun α := { r with status := .active (.ready (n + 1)) }
    have hpauses : lastingPauses d (n + 1) = lastingPauses d n := by
      simp [lastingPauses, List.range_succ, empty]
    have hskip : Comes c r [] ready := by
      apply Comes.step rfl
        (step_outcome_of_isZero (r := r) rfl continues drawn running empty)
      simp [acts, ready]
    have hnext : Comes c ready [.attempt] (waitingFor config listens d (n + 1)) := by
      rw [waitingFor, hpauses]
      apply Comes.step rfl (step_resume_of_running (r := ready) rfl running)
      simp [acts, ready, r, waitingFor]
    rw [retryActs, empty, if_pos rfl]
    apply hskip.trans hnext

/-- As long as no outcome concludes the operation and the pauses can be drawn, it makes one attempt
after the other. -/
theorem comes_waitingFor (continues : ∀ k, k < n → config.concludes k (c.judged k) = false)
    (drawn : ∀ k, k < n → config.nextDelay? k (c.word k) = some (d k)) :
  Comes c (start config listens false)
    (.attempt :: (List.range n).flatMap (retryActs d)) (waitingFor config listens d n)
  := by
  induction n with
  | zero => exact comes_start
  | succ n ih =>
    have hbefore := ih (fun k hk => continues k (Nat.lt_succ_of_lt hk))
      (fun k hk => drawn k (Nat.lt_succ_of_lt hk))
    have hretry : Comes c (waitingFor config listens d n) (retryActs d n)
        (waitingFor config listens d (n + 1)) :=
      comes_retry (continues n (Nat.lt_succ_self n)) (drawn n (Nat.lt_succ_self n))
    rw [List.range_succ, List.flatMap_append, List.flatMap_singleton, ← List.cons_append]
    apply hbefore.trans hretry

/-- An operation that ends with an outcome stays as it is, with all that it has asked for. -/
theorem ends_after (continues : ∀ k, k < n → config.concludes k (c.judged k) = false)
    (drawn : ∀ k, k < n → config.nextDelay? k (c.word k) = some (d k)) {status : RetryStatus α}
    (hstep : (waitingFor config listens d n : RetryRun α).step (.outcome (c.judged n) (c.word n))
      = { (waitingFor config listens d n : RetryRun α) with status })
    (ended : ∀ stage, status ≠ .active stage) :
  ∃ m, ∀ later, m ≤ later →
    let r := (carryOn c)^[later] (start config listens false)
    r.status = status ∧ r.attempts = n + 1 ∧ r.pauses = lastingPauses d n
    ∧ (start config listens false).trace c later
      = .attempt :: (List.range n).flatMap (retryActs d)
  := by
  let last : RetryRun α := { (waitingFor config listens d n : RetryRun α) with status }
  have hend : Comes c (waitingFor config listens d n) [] last := by
    apply Comes.step rfl hstep
    simp [acts, last]
  obtain ⟨m, hr, hasked⟩ := (comes_waitingFor continues drawn).trans hend
  rw [List.append_nil] at hasked
  use m
  intro later hlater
  obtain ⟨k, rfl⟩ := Nat.exists_eq_add_of_le hlater
  obtain ⟨hstays, hsilent⟩ := stays_of_ended (c := c) (r := last) ended k
  have hlater : (carryOn c)^[m + k] (start config listens false) = last := by
    rw [Nat.add_comm, Function.iterate_add_apply, hr, hstays]
  rw [hlater, trace_add, hr, hasked, hsilent, List.append_nil]
  exact ⟨rfl, rfl, rfl, rfl⟩

/-- The pauses before the first retries can be drawn, up to one that cannot be. -/
theorem exists_drawn (c : RetryCourse ε α) (config : RetryConfig) (n : Nat) :
  ∃ last, ∃ d : Nat → Duration, last ≤ n
    ∧ (∀ k, k < last → config.nextDelay? k (c.word k) = some (d k))
    ∧ (last < n → config.nextDelay? last (c.word last) = none)
  := by
  let d (k : Nat) : Duration := (config.nextDelay? k (c.word k)).getD .zero
  have drawn {k : Nat} (h : config.nextDelay? k (c.word k) ≠ none) :
      config.nextDelay? k (c.word k) = some (d k) := (Option.getD_of_ne_none h .zero).symm
  by_cases hsome : ∃ k, k < n ∧ config.nextDelay? k (c.word k) = none
  · obtain ⟨hlt, undrawn⟩ := Nat.find_spec hsome
    use Nat.find hsome, d
    refine ⟨hlt.le, ?_, fun _ => undrawn⟩
    intro k hk
    apply drawn
    intro hnone
    exact Nat.find_min hsome hk ⟨hk.trans hlt, hnone⟩
  · use n, d
    refine ⟨Nat.le_refl n, ?_, fun hlt => absurd hlt (Nat.lt_irrefl n)⟩
    intro k hk
    apply drawn
    intro hnone
    exact hsome ⟨k, hk, hnone⟩

/-- Some attempt concludes the operation, at the latest the last one that it may make. -/
theorem exists_concludes (c : RetryCourse ε α) (config : RetryConfig) :
  ∃ n, n + 1 ≤ config.attempts ∧ config.concludes n (c.judged n) = true
    ∧ ∀ k, k < n → config.concludes k (c.judged k) = false
  := by
  have hpos : 1 ≤ config.attempts := Nat.le_max_left _ _
  have hlast : config.concludes (config.attempts - 1) (c.judged (config.attempts - 1)) = true := by
    rcases c.judged (config.attempts - 1) with failure | a
    · rw [RetryConfig.concludes, Nat.sub_add_cancel hpos]
      simp
    · rfl
  have hsome : ∃ n, config.concludes n (c.judged n) = true := ⟨_, hlast⟩
  use Nat.find hsome
  refine ⟨?_, Nat.find_spec hsome, ?_⟩
  · have hle := Nat.find_min' hsome hlast
    omega
  · intro k hk
    apply Bool.eq_false_iff.2
    apply Nat.find_min hsome hk

/-- What a retried operation does that nobody cancels, whether it was given a token or not.  Some
attempt is the first to succeed or to fail for good, unless the last attempt comes before it; if the
pauses up to it can be drawn, as they can for every valid configuration, the operation ends, after
that many attempts, with the outcome of that one, its failure judged.  Otherwise it crashes after
the first attempt whose pause cannot be drawn.  What it asks for on the way are the attempts in
their order, and before each but the first the pause before that retry, unless it is empty. -/
theorem retries_end_with_the_first_conclusion (config : RetryConfig) (listens : Bool)
    (c : RetryCourse ε α) :
  ∃ n last, ∃ d : Nat → Duration, last ≤ n ∧ n + 1 ≤ max 1 config.maxAttempts.toNat
  ∧ (∀ k, k < n → ∃ e, c.outcome k = .error e ∧ (c.judge e).isRetryable = true)
  ∧ ((∀ e, c.outcome n = .error e → (c.judge e).isRetryable = false)
    ∨ n + 1 = max 1 config.maxAttempts.toNat)
  ∧ (∀ k, k < last → config.nextDelay? k (c.word k) = some (d k))
  ∧ (last < n → config.nextDelay? last (c.word last) = none)
  ∧ (config.fault? = none → last = n)
  ∧ ∃ m, ∀ later, m ≤ later →
    let r := (carryOn c)^[later] (start config listens false)
    r.status = (if last = n then .done ((c.outcome n).mapError c.judge) else .crashed)
    ∧ r.attempts = last + 1
    ∧ r.pauses = ((List.range last).map d).filter (fun delay => !delay.isZero)
    ∧ (start config listens false).trace c later
      = .attempt :: (List.range last).flatMap fun k =>
        if (d k).isZero then [.attempt] else [.pause (d k), .attempt]
  := by
  obtain ⟨n, hle, concludes, continues⟩ := exists_concludes c config
  obtain ⟨last, d, hlast, drawn, undrawn⟩ := exists_drawn c config n
  refine ⟨n, last, d, hlast, hle, ?_, ?_, drawn, undrawn, ?_, ?_⟩
  · intro k hk
    have hcontinues := continues k hk
    rw [RetryCourse.judged] at hcontinues
    rcases houtcome : c.outcome k with e | a
    · rw [houtcome] at hcontinues
      exact ⟨e, rfl, (RetryConfig.concludes_eq_false.1 hcontinues).1⟩
    · rw [houtcome] at hcontinues
      cases hcontinues
  · by_cases hlast : n + 1 = config.attempts
    · exact .inr hlast
    · left
      intro e houtcome
      rw [RetryCourse.judged, houtcome] at concludes
      by_contra hretryable
      have hcontinues : config.concludes n (.error (c.judge e) : Except Failure α) = false :=
        RetryConfig.concludes_eq_false.2 ⟨by simpa using hretryable, by omega⟩
      exact absurd concludes (Bool.eq_false_iff.1 hcontinues)
  · intro faultless
    by_contra hne
    have overflows := RetryConfig.nextDelay?_eq_none_iff.1 (undrawn (by omega))
    rw [(RetryConfig.fault?_eq_none_iff.1 faultless).overflows_eq_false] at overflows
    cases overflows
  · by_cases hends : last = n
    · rw [if_pos hends]
      subst hends
      apply ends_after continues drawn (step_outcome_of_concludes rfl concludes (c.word last)) nofun
    · have hlt : last < n := by omega
      have continued (k : Nat) (hk : k < last) := continues k (hk.trans hlt)
      rw [if_neg hends]
      apply ends_after continued drawn
        (step_outcome_of_undrawn rfl (continues last hlt) (undrawn hlt)) nofun

end RetryRun

end OrderDesk
