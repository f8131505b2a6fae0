import OrderDesk.Proofs.Desk.Permits
import OrderDesk.Proofs.Retry.Termination

/-!
# Attempts of a task

Every attempt that a task begins is one question to the rate limiter, whether it gets a permit or
not, and a task begins no more attempts than the retry configuration allows.  A submission that
is answered from the cache or waits for another one, and an operation that is turned down, have
begun none.
-/

namespace OrderDesk

namespace RetryStage

/-- The number of attempts begun by a stage. -/
def begun : RetryStage → Nat
  | .ready n => n
  | .running n => n + 1
  | .pausing n _ => n

theorem begun_le {stage : RetryStage} {attempts : Nat} (h : stage.attempt < attempts) :
  stage.begun ≤ attempts
  := by
  cases stage with
  | ready => exact Nat.le_of_lt h
  | running => exact h
  | pausing => exact Nat.le_of_lt h

end RetryStage

/-- Whether a failure says that an operation is turned down before any attempt. -/
def Failure.isEarly : Failure → Bool
  | .fatal (.unknownClientId _) => true
  | .fatal (.orderConflict _) => true
  | .fatal (.invalidOrder _) => true
  | .fatal (.missingVenueOrderId _) => true
  | _ => false

theorem Venue.isEarly_judge (venue : Venue) (failure : TransportFailure) :
  (venue.judge failure).isEarly = false
  := by
  rw [judge.eq_def]
  split
  · rfl
  · rfl
  · rfl
  · rfl
  · split
    · rfl
    · rfl
  · split
    · rfl
    · rfl

/-- How an operation can fail once it has begun an attempt. -/
inductive AttemptFailure (venue : VenueProfile) : Failure → Prop where
  | cancelled : AttemptFailure venue .cancelled
  | unpermitted (limit : RateLimit) : AttemptFailure venue (.retryable (.rateLimitExceeded limit))
  | judged (failure : TransportFailure) : AttemptFailure venue (venue.judge failure)

namespace Desk

variable {d d' : Desk} {e : DeskEvent} {t u : Ticket} {effects effects' : List DeskEffect}
  {venue : VenueProfile} {attempts k : Nat}

/-! ### Attempts of one task -/

/-- The number of answers of the limiter to the task under a ticket. -/
def answersTo (t : Ticket) (effects : List DeskEffect) : Nat :=
  effects.countP (DeskEffect.answers t)

theorem answersTo_append (t : Ticket) (effects effects' : List DeskEffect) :
  answersTo t (effects ++ effects') = answersTo t effects + answersTo t effects'
  := List.countP_append

theorem answersTo_of_quiet (t : Ticket) (h : Quiet effects) :
  answersTo t effects = 0
  := countP_of_quiet (fun _ => answers_of_isQuiet t) h

/-- How many attempts the task under a ticket has begun. -/
inductive Spends (venue : VenueProfile) (attempts : Nat) : Option Task → Nat → Prop where
  | absent : Spends venue attempts none 0
  | waiting (id : ClientId) (request : Payload) :
      Spends venue attempts (some (.waiting id request)) 0
  | trying {task : Task} {stage : RetryStage} (stage? : task.stage? = some stage)
      (room : stage.attempt < attempts) : Spends venue attempts (some task) stage.begun
  | finished {result : Result} {k : Nat} (within : k ≤ attempts)
      (failed : k ≠ 0 → ∀ failure, result = .error failure → AttemptFailure venue failure) :
      Spends venue attempts (some (.finished result)) k
  | comparing {k : Nat} (orders : List Payload) (within : k ≤ attempts) :
      Spends venue attempts (some (.comparing orders)) k
  | dropped {k : Nat} (within : k ≤ attempts) : Spends venue attempts (some .dropped) k

namespace Spends

theorem le {task : Option Task} (h : Spends venue attempts task k) :
  k ≤ attempts
  := by
  cases h with
  | absent => apply Nat.zero_le
  | waiting => apply Nat.zero_le
  | trying stage? room => apply RetryStage.begun_le room
  | finished within => exact within
  | comparing orders within => exact within
  | dropped within => exact within

/-- Where no operation has begun there are no attempts. -/
theorem eq_zero_of_fresh (h : Spends venue attempts (d.task? t) k) (fresh : d.task? t = none) :
  k = 0
  := by
  rw [fresh] at h
  cases h with
  | absent => rfl

/-- A submission that waits for another one has begun no attempt. -/
theorem eq_zero_of_waiting {id : ClientId} {request : Payload}
    (h : Spends venue attempts (d.task? t) k)
    (waiting : d.task? t = some (.waiting id request)) :
  k = 0
  := by
  rw [waiting] at h
  cases h with
  | waiting => rfl
  | trying stage? => cases stage?

/-- An operation that has begun an attempt fails as attempts do. -/
theorem failed {failure : Failure}
    (h : Spends venue attempts (some (.finished (.error failure))) k) (hk : k ≠ 0) :
  AttemptFailure venue failure
  := by
  cases h with
  | trying stage? => cases stage?
  | finished within failed => apply failed hk failure rfl

theorem of_stage? {task : Task} {stage : RetryStage} (h : Spends venue attempts (some task) k)
    (hstage : task.stage? = some stage) :
  k = stage.begun ∧ stage.attempt < attempts
  := by
  cases h with
  | waiting => cases hstage
  | trying stage? room =>
    cases stage?.symm.trans hstage
    exact ⟨rfl, room⟩
  | finished => cases hstage
  | comparing => cases hstage
  | dropped => cases hstage

end Spends

/-! ### Steps of the retries -/

/-- What follows once so many attempts have been begun. -/
inductive Leads (venue : VenueProfile) (attempts k : Nat) : RetryStep Empty → Prop where
  | finish {failure : Failure} (within : k ≤ attempts) (failed : AttemptFailure venue failure) :
      Leads venue attempts k (.finish (.error failure))
  | crash (within : k ≤ attempts) : Leads venue attempts k .crash
  | goOn {stage : RetryStage} (begun : stage.begun = k) (room : stage.attempt < attempts) :
      Leads venue attempts k (.goOn stage)

/-- A failed attempt is followed by another one as long as there are any left. -/
theorem leads_afterFailure (config : RetryConfig) (cancelled : Bool) (word : UInt64) {n : Nat}
    (room : n < config.attempts) {failure : Failure} (failed : AttemptFailure venue failure) :
  Leads venue config.attempts (n + 1) (RetryStage.afterFailure config cancelled word n failure)
  := by
  generalize hnext : RetryStage.afterFailure config cancelled word n failure = next
  cases RetryStage.aftermath hnext with
  | fails => exact .finish room failed
  | crashed => exact .crash room
  | withdrawn => exact .finish room .cancelled
  | retried more => exact .goOn rfl more
  | paused more => exact .goOn rfl more

/-- The retries of a task get on with as many attempts begun as the limiter has answered. -/
theorem Retries.leads {task : Task} {limiter : RateLimiter} {next : RetryStep Empty}
    (h : d.Retries t task e limiter effects next)
    (spends : Spends d.venue d.retry.attempts (some task) k) :
  Leads d.venue d.retry.attempts (k + answersTo t effects) next
  := by
  cases h with
  | stopped word stage cancelled => exact .finish spends.le .cancelled
  | @refused n limiter word stage running permit =>
    obtain ⟨rfl, room⟩ := spends.of_stage? stage
    have hone : answersTo t [.refused t d.clock] = 1 := by simp [answersTo, DeskEffect.answers]
    rw [hone]
    apply leads_afterFailure _ _ _ room
    exact .unpermitted limiter.limit
  | failed failure word stage =>
    obtain ⟨rfl, room⟩ := spends.of_stage? stage
    exact leads_afterFailure _ _ _ room (.judged failure)
  | rested stage =>
    obtain ⟨rfl, room⟩ := spends.of_stage? stage
    exact .goOn rfl room
  | interrupted stage cancelled => exact .finish spends.le .cancelled

/-- The limiter answers only to the task whose retries get on. -/
theorem Retries.answersTo_of_ne {task : Task} {limiter : RateLimiter} {next : RetryStep Empty}
    (h : d.Retries t task e limiter effects next) (hne : u ≠ t) :
  answersTo u effects = 0
  := by
  cases h with
  | refused => simp [answersTo, DeskEffect.answers, hne.symm]
  | _ => rfl

/-- A task that gives up returns the failure, unless it reconciles. -/
theorem task?_giveUp (d : Desk) (t : Ticket) {task : Task} {stage : RetryStage}
    (hstage : task.stage? = some stage) (failure : Failure) (u : Ticket) :
  ∃ task', (d.giveUp t task failure).1.task? u = (if u = t then some task' else d.task? u)
    ∧ (task' = .finished (.error failure) ∨ task = .reconciling stage ∧ task' = .comparing [])
  := by
  cases task with
  | submitting => exact ⟨_, task?_setTask _ _ _ _, .inl rfl⟩
  | cancelling => exact ⟨_, task?_setTask _ _ _ _, .inl rfl⟩
  | reconciling =>
    cases hstage
    rw [giveUp]
    split
    · exact ⟨_, task?_setTask _ _ _ _, .inl rfl⟩
    · exact ⟨_, task?_setTask _ _ _ _, .inr ⟨rfl, rfl⟩⟩
  | waiting => cases hstage
  | comparing => cases hstage
  | finished => cases hstage
  | dropped => cases hstage

/-! ### Steps of a desk -/

theorem spends_setTask {task : Task} (other : u ≠ t → Spends venue attempts (d.task? u) k)
    (self : u = t → Spends venue attempts (some task) k) :
  Spends venue attempts ((d.setTask t task).task? u) k
  := by
  rw [task?_setTask]
  split
  next heq => apply self heq
  next hne => apply other hne

/-- An operation that ends has begun no further attempt. -/
theorem Ends.spends {p : Desk × List DeskEffect} (h : d.Ends t p)
    (other : u ≠ t → Spends venue attempts (d.task? u) k)
    (self : u = t → k = 0) :
  Spends venue attempts (p.1.task? u) k
  := by
  obtain ⟨audit, result, rfl⟩ := h
  apply spends_setTask other
  intro heq
  rw [self heq]
  exact .finished (Nat.zero_le _) (fun hk => absurd rfl hk)

theorem spends_followCall {id : ClientId} {request : Payload} (room : 0 < attempts)
    (spends : Spends venue attempts (d.task? u) k) (self : u = t → k = 0) :
  Spends venue attempts ((d.followCall t id request).1.task? u) k
  := by
  rw [followCall]
  split
  · apply spends_setTask (fun _ => spends)
    intro heq
    rw [self heq]
    exact .waiting id request
  · apply spends_setTask (fun _ => spends)
    intro heq
    have hstage : (Task.submitting id request .start).stage? = some .start := rfl
    rw [self heq]
    exact .trying hstage room
  next outcome hcall =>
    apply (d.returnSubmitted_ends t id request outcome).spends (fun _ => spends) self
  · exact spends

theorem spends_follow {task : Task} {stage : RetryStage} (hstage : task.stage? = some stage)
    {next : RetryStep Empty} (other : u ≠ t → Spends venue attempts (d.task? u) k)
    (self : u = t → Leads venue attempts k next) :
  Spends venue attempts ((d.follow t task next).1.task? u) k
  := by
  by_cases heq : u = t
  · cases self heq with
    | finish within failed =>
      obtain ⟨task', htask, rfl | ⟨-, rfl⟩⟩ := d.task?_giveUp t hstage _ u
      · rw [follow, htask, if_pos heq]
        apply Spends.finished within
        rintro - _ ⟨⟩
        exact failed
      · rw [follow, htask, if_pos heq]
        exact .comparing [] within
    | crash within =>
      rw [follow, drop, task?_setTask, if_pos heq]
      exact .dropped within
    | goOn begun room =>
      rw [follow_goOn, task?_setTask, if_pos heq, ← begun]
      exact .trying (Task.stage?_atStage hstage _) room
  · cases next with
    | finish result =>
      cases result with
      | ok a => exact a.elim
      | error failure =>
        obtain ⟨task', htask, -⟩ := d.task?_giveUp t hstage failure u
        rw [follow, htask, if_neg heq]
        apply other heq
    | crash =>
      rw [follow, drop, task?_setTask, if_neg heq]
      apply other heq
    | goOn stage' =>
      rw [follow_goOn, task?_setTask, if_neg heq]
      apply other heq

/-- An event adds to the attempts of a task what the limiter answers to it. -/
theorem Spends.step (h : Spends d.venue d.retry.attempts (d.task? u) k) (e : DeskEvent) :
  Spends d.venue d.retry.attempts ((d.step e).1.task? u) (k + answersTo u (d.step e).2)
  := by
  have room := d.retry.attempts_pos
  have idle {d' : Desk} {effects : List DeskEffect} (quiet : Quiet effects)
      (h : Spends d.venue d.retry.attempts (d'.task? u) k) :
      Spends d.venue d.retry.attempts (d'.task? u) (k + answersTo u effects) := by
    rw [answersTo_of_quiet u quiet]
    exact h
  have begins {task : Task} {t : Ticket} (fresh : d.task? t = none)
      (hstage : task.stage? = some .start) :
      Spends d.venue d.retry.attempts ((d.setTask t task).task? u) k := by
    apply spends_setTask (fun _ => h)
    rintro rfl
    rw [h.eq_zero_of_fresh fresh]
    exact .trying hstage room
  have succeeds {d' : Desk} {t : Ticket} (htasks : d'.tasks = d.tasks) (answer : Answer) :
      Spends d.venue d.retry.attempts
        ((d'.setTask t (.finished (.ok answer))).task? u) k := by
    apply spends_setTask
    · intro hne
      rw [task?, htasks]
      exact h
    · rintro rfl
      exact .finished h.le (by simp)
  have m := d.step_move e
  generalize d.step e = p at m
  cases m with
  | rest => exact idle quiet_nil h
  | @reject t _ sequence failure fresh =>
    have hends := { d with sequence }.finish_ends t (.error failure)
    apply idle hends.quiet
    apply hends.spends (fun _ => h)
    rintro rfl
    apply h.eq_zero_of_fresh fresh
  | submit fresh =>
    apply idle (quiet_followCall _ _ _ _)
    refine spends_followCall room h ?_
    rintro rfl
    apply h.eq_zero_of_fresh fresh
  | cancelOrder fresh => exact idle quiet_nil (begins fresh rfl)
  | reconcile fresh => exact idle quiet_nil (begins fresh rfl)
  | @call t task n call limiter word htask stage =>
    by_cases heq : u = t
    · subst heq
      rw [htask] at h
      obtain ⟨rfl, hroom⟩ := h.of_stage? stage
      have hone : answersTo u [.admitted u d.clock, .called u call] = 1 := by
        simp [answersTo, DeskEffect.answers]
      rw [task?_setTask, if_pos rfl, hone]
      exact .trying (Task.stage?_atStage stage _) hroom
    · have hnone : answersTo u [.admitted t d.clock, .called t call] = 0 := by
        simp [answersTo, DeskEffect.answers, Ne.symm heq]
      rw [task?_setTask, if_neg heq, hnone]
      exact h
  | @retry t task _ limiter shown next htask retries =>
    obtain ⟨stage, hstage⟩ := retries.exists_stage
    have quiet := quiet_follow { d with limiter } t hstage next
    rw [answersTo_append, answersTo_of_quiet u quiet, Nat.add_zero]
    by_cases heq : u = t
    · subst heq
      rw [htask] at h
      apply spends_follow hstage (fun hne => absurd rfl hne) (fun _ => retries.leads h)
    · rw [retries.answersTo_of_ne heq]
      refine spends_follow hstage (fun _ => ?_) (fun hself => absurd hself heq)
      exact h
  | accept => exact idle (settleSubmitted_ends _ _ _ _ _).quiet (succeeds rfl _)
  | acknowledge => exact idle (acknowledge_ends _ _ _ _ _).quiet (succeeds rfl _)
  | list =>
    apply idle quiet_nil
    apply spends_setTask (fun _ => h)
    rintro rfl
    exact .comparing _ h.le
  | compare => exact idle (report_ends _ _ _).quiet (succeeds rfl _)
  | wake htask =>
    apply idle (quiet_followCall _ _ _ _)
    refine spends_followCall room h ?_
    rintro rfl
    apply h.eq_zero_of_waiting htask
  | abort htask =>
    apply idle quiet_nil
    apply spends_setTask (fun _ => h)
    rintro rfl
    exact .dropped h.le
  | cancel => exact idle quiet_nil h
  | advance => exact idle quiet_nil h
  | update => exact idle quiet_nil h

/-- A run adds to the attempts of a task what the limiter answers to it. -/
theorem Spends.after (h : Spends d.venue d.retry.attempts (d.task? t) k)
    (events : List DeskEvent) :
  Spends d.venue d.retry.attempts ((d.after events).task? t) (k + answersTo t (d.shown events))
  := by
  induction events generalizing d k with
  | nil => exact h
  | cons e events ih =>
    have hstep := h.step e
    rw [← d.venue_step e, ← d.retry_step e] at hstep ⊢
    rw [after_cons, shown_cons, answersTo_append, ← Nat.add_assoc]
    apply ih hstep

/-! ### Calls within the rate limit -/

/-- At the known venues no attempt fails for what is checked before it. -/
theorem isEarly_of_attemptFailure {venue : Venue} {failure : Failure}
    (h : AttemptFailure venue failure) :
  failure.isEarly = false
  := by
  cases h with
  | cancelled => rfl
  | unpermitted => rfl
  | judged raw => apply venue.isEarly_judge

/-- An operation that returns when it begins or when it is woken has begun no attempt before. -/
theorem asking_of_returns {result : Result}
    (he : (∃ operation, e = .begin t operation) ∨ e = .wake t)
    (h : .finished t result ∈ (d.step e).2) :
  d.task? t = none ∨ ∃ id request, d.task? t = some (.waiting id request)
  := by
  obtain ⟨operation, rfl⟩ | rfl := he
  · rw [step, begin.eq_def] at h
    split at h
    next fresh unasked => exact .inl fresh
    next => cases h
  · rw [step] at h
    split at h
    next id request htask => exact .inr ⟨id, request, htask⟩
    next => cases h

/-- The limiter answers only when a task with an attempt ahead goes on. -/
theorem answersTo_step_of_ne (he : ∀ word, e ≠ .resume t word) :
  answersTo t (d.step e).2 = 0
  := by
  have deals := d.deals_step e
  generalize (d.step e).1.limiter = limiter at deals
  generalize (d.step e).2 = effects at deals
  cases deals with
  | @called u _ word call =>
    have hne : u ≠ t := by
      rintro rfl
      exact he word rfl
    simp [answersTo, DeskEffect.answers, hne]
  | @refused u _ _ word denied quiet =>
    have hne : u ≠ t := by
      rintro rfl
      exact he word rfl
    rw [answersTo, List.countP_cons_of_neg (by simpa [DeskEffect.answers] using hne)]
    apply answersTo_of_quiet t quiet
  | idle e quiet => apply answersTo_of_quiet t quiet

/-- The venue is called within the rate limit.  In every state that a run of events at a desk leads
to, an event shows either a permit together with the call to the venue that it is for, or a
refusal without a call, or neither, and then leaves the limiter alone; the first two happen only
when a task with an attempt ahead goes on.  The limiter has answered a task once for every
attempt that it has begun, with a permit or not, and no more often than the retries allow.  It
has not answered a submission that waits for another one, nor an operation that returns when it
begins or is woken; and an operation to which it has answered fails only because it is cancelled,
without a permit or as the venue's failures are judged: not with a conflict, an invalid order, an
unknown id or a missing venue id.  No period contains more calls to the venue than the limit
allows. -/
theorem venue_is_called_within_the_rate_limit (venue : VenueProfile) (retry : RetryConfig)
    (limiter : RateLimiter) (fresh : limiter.admitted = []) (token : Option Bool)
    (events : List DeskEvent) :
  let start := opened venue retry limiter token
  let d := start.after events
  let shown := start.shown events
  (∀ e, d.Deals e (d.step e).1.limiter (d.step e).2)
  ∧ (∀ t, answersTo t shown ≤ retry.attempts
      ∧ (∀ task stage, d.task? t = some task → task.stage? = some stage →
          answersTo t shown = stage.begun)
      ∧ (∀ id request, d.task? t = some (.waiting id request) → answersTo t shown = 0)
      ∧ (∀ e result, (∃ operation, e = .begin t operation) ∨ e = .wake t →
          .finished t result ∈ (d.step e).2 → answersTo t (start.shown (events ++ [e])) = 0)
      ∧ (∀ failure, d.task? t = some (.finished (.error failure)) → answersTo t shown ≠ 0 →
          AttemptFailure venue failure))
  ∧ (∀ (v : Venue) (failure : Failure), AttemptFailure v failure → failure.isEarly = false)
  ∧ ∀ now, (start.callReadings events).countP (limiter.limit.within now) ≤ limiter.limit.maxCalls
  := by
  intro start d shown
  refine ⟨d.deals_step, ?_, fun v failure => isEarly_of_attemptFailure, ?_⟩
  · intro t
    have spends : Spends venue retry.attempts (d.task? t) (answersTo t shown) := by
      have none : Spends start.venue start.retry.attempts (start.task? t) 0 := .absent
      have hafter := none.after events
      rw [Nat.zero_add] at hafter
      exact hafter
    refine ⟨spends.le, ?_, fun _ _ => spends.eq_zero_of_waiting, ?_, ?_⟩
    · intro task stage htask hstage
      rw [htask] at spends
      exact (spends.of_stage? hstage).1
    · intro e result he hreturns
      have hzero : answersTo t shown = 0 := by
        obtain htask | ⟨id, request, htask⟩ := asking_of_returns he hreturns
        · apply spends.eq_zero_of_fresh htask
        · apply spends.eq_zero_of_waiting htask
      rw [shown_concat, answersTo_append, hzero, Nat.zero_add]
      apply answersTo_step_of_ne
      rintro word rfl
      obtain ⟨operation, heq⟩ | heq := he
      · cases heq
      · cases heq
    · intro failure htask hanswers
      rw [htask] at spends
      apply spends.failed hanswers
  · have unused : start.limiter.admitted = [] := fresh
    apply bounded_callReadings unused events

/-- One call per ten nanoseconds: a reconciliation calls the venue in vain, gets no permit at once
and calls again when the period is over.  By then it has begun three attempts, and only the later
call lies within the last period. -/
theorem refused_attempt_counts_as_an_attempt :
  let limiter : RateLimiter := ⟨⟨1, ⟨10, by decide⟩⟩, by decide, []⟩
  let events : List DeskEvent := [
    .begin "a" .reconcile, .resume "a" 0, .failed "a" (.timeout "late") 0, .resume "a" 0,
    .advance 10, .resume "a" 0]
  let start := opened Venue.alpaca (.immediate 3) limiter none
  limiter.admitted = []
  ∧ start.callReadings events = [0, 10]
  ∧ answersTo "a" (start.shown events) = 3
  ∧ (start.callReadings events).countP (limiter.limit.within 10) ≤ 1
  := by
  intro limiter events start
  have fresh : limiter.admitted = [] := rfl
  have htask : (start.after events).task? "a" = some (.reconciling (.running 2)) := by
    decide +kernel
  obtain ⟨-, hattempts, -, hwindow⟩ :=
    venue_is_called_within_the_rate_limit Venue.alpaca (.immediate 3) limiter fresh none events
  obtain ⟨-, hbegun, -⟩ := hattempts "a"
  exact ⟨fresh, by decide +kernel, hbegun _ _ htask rfl, hwindow 10⟩

end Desk

end OrderDesk
