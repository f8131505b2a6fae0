import OrderDesk.Proofs.Desk.Attempts
import OrderDesk.Proofs.Desk.Failures
import OrderDesk.Proofs.Desk.Sequence
import OrderDesk.Proofs.Desk.Stages

/-!
# Waiting out the period

An attempt that gets no permit is followed by a pause like any other failed attempt.  If every
pause is at least as long as the period of the rate limiter, and operations do not overlap, then at
the end of a pause every permit that was ever granted is a whole period old, the limiter has
forgotten it, and the next attempt gets a permit.
-/

namespace OrderDesk

namespace Desk

variable {d : Desk} {e : DeskEvent} {t u : Ticket} {task : Task} {stage : RetryStage}
  {events : List DeskEvent} {n m : Nat}

/-! ### Pauses -/

/-- Whether the clock advances by at least so many nanoseconds before the pause of the task under a
ticket is over. -/
def outlasts (t : Ticket) : Nat → List DeskEvent → Bool
  | _, [] => true
  | n, .advance nanoseconds :: events => outlasts t (n - nanoseconds) events
  | n, .paused u :: events => if u = t then n == 0 else outlasts t n events
  | n, _ :: events => outlasts t n events

/-- Whether the pause that an effect shows lasts as long as it is to. -/
def isSleptOut (events : List DeskEvent) : DeskEffect → Bool
  | .paused t delay => outlasts t delay.nanoseconds events
  | _ => true

/-- Whether all pauses in a sequence of events last as long as they are to. -/
def sleepsOut (d : Desk) : List DeskEvent → Bool
  | [] => true
  | e :: events => (d.step e).2.all (isSleptOut events) && (d.step e).1.sleepsOut events

/-! ### Permits that have left the window -/

/-- In so many nanoseconds all permits granted so far will be a whole period old. -/
def ClearIn (d : Desk) (n : Nat) : Prop :=
  ∀ s ∈ d.limiter.admitted, s + d.limiter.limit.period.nanoseconds ≤ d.clock + n

/-- The limiter comes to keep another reading only when a task calls the venue. -/
theorem mem_admitted_of_step {s : Nat} (h : s ∈ (d.step e).1.limiter.admitted) :
  s ∈ d.limiter.admitted ∨ s = d.clock ∧ ∃ t call, .called t call ∈ (d.step e).2
  := by
  have deals := d.deals_step e
  generalize (d.step e).1.limiter = limiter at h deals
  generalize (d.step e).2 = effects at deals
  cases deals with
  | @called t _ word call granted =>
    have hlimiter : (d.limiter.acquire d.clock).1 = limiter := by rw [granted]
    rw [← hlimiter] at h
    obtain h | ⟨-, h⟩ := RateLimiter.mem_admitted_of_acquire h
    · exact .inl h
    · exact .inr ⟨h, t, call, List.mem_cons_of_mem _ (List.mem_singleton_self _)⟩
  | @refused t _ _ word denied =>
    have hlimiter : (d.limiter.acquire d.clock).1 = limiter := by rw [denied]
    rw [← hlimiter] at h
    obtain h | ⟨granted, -⟩ := RateLimiter.mem_admitted_of_acquire h
    · exact .inl h
    · rw [denied] at granted
      cases granted
  | idle => exact .inl h

/-- As long as the venue is not called, the permits only get older. -/
theorem ClearIn.step (h : d.ClearIn n) (quiet : ∀ t call, .called t call ∉ (d.step e).2)
    (passed : d.clock + n ≤ (d.step e).1.clock + m) :
  (d.step e).1.ClearIn m
  := by
  intro s hs
  rw [limit_step]
  obtain hs | ⟨-, t, call, hcalled⟩ := mem_admitted_of_step hs
  · apply Nat.le_trans (h s hs) passed
  · exact absurd hcalled (quiet t call)

/-- A task whose earlier permits are out of the window gets one. -/
theorem ClearIn.granted (h : d.ClearIn 0) :
  (d.limiter.acquire d.clock).2 = true
  := RateLimiter.acquire_of_past h

/-! ### Runs with sufficient pauses -/

/-- What remains of a pause after an event that does not end it. -/
theorem outlasts_tail (h : outlasts t m (e :: events) = true) (goesOn : e ≠ .paused t) (d : Desk) :
  ∃ n, outlasts t n events = true ∧ d.clock + m ≤ (d.step e).1.clock + n
  := by
  have hle := Nat.add_le_add_right (d.clock_step_le e) m
  cases e with
  | advance nanoseconds =>
    refine ⟨m - nanoseconds, h, ?_⟩
    change d.clock + m ≤ d.clock + nanoseconds + (m - nanoseconds)
    omega
  | paused u =>
    have hne : u ≠ t := by
      rintro rfl
      exact goesOn rfl
    rw [outlasts, if_neg hne] at h
    exact ⟨m, h, hle⟩
  | _ => exact ⟨m, h, hle⟩

/-- What a task at a stage can rely on: a further attempt that is due, and one that is due when the
pause is over, find all permits out of the window. -/
def Awaits (d : Desk) (events : List DeskEvent) (t : Ticket) : RetryStage → Prop
  | .ready n => n = 0 ∨ d.ClearIn 0
  | .running _ => True
  | .pausing _ _ => ∃ m, outlasts t m events = true ∧ d.ClearIn m

/-- In the events that are to come operations do not overlap, every pause lasts as long as it is to,
and that is no shorter than the period of the limiter. -/
structure Paced (d : Desk) (events : List DeskEvent) : Prop where
  sole : d.Sole
  sequential : d.isSequential events = true
  slept : d.sleepsOut events = true
  delays {e : DeskEvent} (he : e ∈ events) {word : UInt64} (hword : e.word? = some word) {n : Nat}
    (more : n + 1 < d.retry.attempts) {delay : Duration}
    (drawn : d.retry.nextDelay? n word = some delay) :
    d.limiter.limit.period.nanoseconds ≤ delay.nanoseconds
  past {s : Nat} (hs : s ∈ d.limiter.admitted) : s ≤ d.clock
  awaits {t : Ticket} {task : Task} {stage : RetryStage} (htask : d.task? t = some task)
    (hstage : task.stage? = some stage) : d.Awaits events t stage

/-- While the only task at a stage stays there, the venue is not called. -/
theorem Sole.not_called (h : d.Sole) (before : d.task? t = some task)
    (after : (d.step e).1.task? t = some task) (hstage : task.stage? = some stage)
    (silent : ∀ n, stage ≠ .running n) (u : Ticket) (call : VenueCall) :
  .called u call ∉ (d.step e).2
  := by
  intro hcalled
  obtain ⟨task', n, htask, hready, -, hafter⟩ := task?_of_called hcalled
  obtain rfl : t = u := h.unique (active_of_stage? before hstage) (active_of_stage? htask hready)
  obtain rfl := Option.some.inj (after.symm.trans hafter)
  rw [Task.stage?_atStage hready] at hstage
  cases hstage
  exact silent n rfl

namespace Paced

theorem past_step (h : d.Paced events) {s : Nat} (hs : s ∈ (d.step e).1.limiter.admitted) :
  s ≤ (d.step e).1.clock
  := by
  have hle := d.clock_step_le e
  obtain hs | ⟨rfl, -⟩ := mem_admitted_of_step hs
  · apply Nat.le_trans (h.past hs) hle
  · exact hle

theorem awaits_of_same (h : d.Paced (e :: events)) (before : d.task? t = some task)
    (after : (d.step e).1.task? t = some task) (hstage : task.stage? = some stage) :
  (d.step e).1.Awaits events t stage
  := by
  have awaits := h.awaits before hstage
  cases stage with
  | running => trivial
  | ready n =>
    obtain rfl | clear := awaits
    · exact .inl rfl
    · right
      apply clear.step (h.sole.not_called before after hstage nofun)
      apply d.clock_step_le e
  | pausing n delay =>
    obtain ⟨m, outlasted, clear⟩ := awaits
    have goesOn : e ≠ .paused t := by
      rintro rfl
      have heq := Option.some.inj (after.symm.trans (task?_step_paused before hstage))
      have hready := Task.stage?_atStage hstage (.ready n)
      rw [← heq, hstage] at hready
      cases hready
    obtain ⟨k, hk, hle⟩ := outlasts_tail outlasted goesOn d
    exact ⟨k, hk, clear.step (h.sole.not_called before after hstage nofun) hle⟩

theorem awaits_of_enters (h : d.Paced (e :: events)) (enters : d.Enters e t stage) :
  (d.step e).1.Awaits events t stage
  := by
  cases enters with
  | begins => exact .inl rfl
  | calls => trivial
  | rests heq htask hstage =>
    subst heq
    obtain ⟨m, outlasted, clear⟩ := h.awaits htask hstage
    obtain rfl : m = 0 := by simpa [outlasts] using outlasted
    right
    apply clear.step _ (d.clock_step_le _)
    intro u call hcalled
    obtain ⟨_, _, _, _, heq, -⟩ := step_of_called hcalled
    cases heq
  | pauses hword more drawn shown =>
    have slept := h.slept
    rw [sleepsOut, Bool.and_eq_true] at slept
    refine ⟨_, List.all_eq_true.1 slept.1 _ shown, ?_⟩
    intro s hs
    rw [limit_step]
    apply Nat.add_le_add (h.past_step hs)
    apply h.delays List.mem_cons_self hword more drawn
  | @hurries n word delay hword more drawn empty =>
    have hdelay := h.delays List.mem_cons_self hword more drawn
    have hperiod := d.limiter.period_pos
    have hzero : delay.nanoseconds = 0 := of_decide_eq_true empty
    omega

/-- An event leaves what a run with sufficient pauses keeps. -/
theorem step (h : d.Paced (e :: events)) :
  (d.step e).1.Paced events
  := by
  have sequential := h.sequential
  have slept := h.slept
  rw [isSequential, Bool.and_eq_true] at sequential
  rw [sleepsOut, Bool.and_eq_true] at slept
  constructor
  · apply h.sole.step
    intro begins
    simpa [begins] using sequential.1
  · exact sequential.2
  · exact slept.2
  · intro e' he' word hword n more delay drawn
    rw [limit_step]
    rw [retry_step] at more drawn
    apply h.delays (List.mem_cons_of_mem e he') hword more drawn
  · intro s hs
    apply h.past_step hs
  · intro t task stage htask hstage
    obtain before | enters := enters_of_step htask hstage
    · apply h.awaits_of_same before htask hstage
    · apply h.awaits_of_enters enters

theorem after {before : List DeskEvent} (h : d.Paced (before ++ events)) :
  (d.after before).Paced events
  := by
  induction before generalizing d with
  | nil => exact h
  | cons e before ih =>
    rw [after_cons]
    apply ih h.step

end Paced

/-- A task with an attempt ahead makes it if it gets a permit and is not cancelled. -/
theorem admitted_of_granted (htask : d.task? t = some task)
    (hstage : task.stage? = some (.ready n)) (running : d.isCancelled = false)
    (granted : (d.limiter.acquire d.clock).2 = true) (word : UInt64) :
  .admitted t d.clock ∈ (d.step (.resume t word)).2
  := by
  have made : ∃ call, task.venueCall? = some call := by
    cases task with
    | submitting => exact ⟨_, rfl⟩
    | cancelling => exact ⟨_, rfl⟩
    | reconciling => exact ⟨_, rfl⟩
    | waiting => cases hstage
    | comparing => cases hstage
    | finished => cases hstage
    | dropped => cases hstage
  obtain ⟨call, made⟩ := made
  rw [Desk.step, htask]
  simp only [hstage, made]
  rcases permit : d.limiter.acquire d.clock with ⟨limiter, answer⟩
  obtain rfl : answer = true := by rw [← granted, permit]
  rw [attempt_of_granted running permit]
  exact List.mem_cons_self

/-- With sufficient pauses a further attempt gets a permit. -/
theorem Paced.granted (h : d.Paced events) (htask : d.task? t = some task)
    (hstage : task.stage? = some (.ready (n + 1))) :
  (d.limiter.acquire d.clock).2 = true
  := by
  obtain heq | clear := h.awaits htask hstage
  · cases heq
  · apply clear.granted

/-- With sufficient pauses only a first attempt is refused a permit. -/
theorem Paced.first_of_refused (h : d.Paced events) {clock : Nat}
    (refused : .refused t clock ∈ (d.step e).2) :
  ∃ task, d.task? t = some task ∧ task.stage? = some (.ready 0)
  := by
  obtain ⟨task, n, htask, hready, denied⟩ := ready_of_refused refused
  cases n with
  | zero => exact ⟨task, htask, hready⟩
  | succ n => cases (h.granted htask hready).symm.trans denied

/-! ### Runs -/

/-- Waiting out the period always gets a permit.  At a desk that attempts its calls twice at least,
let operations not overlap, let every pause last as long as it is to, by a clock that may advance
further at any time, and let no pause that the words of the run lead to be shorter than the period
of the limiter.  Whatever the venue answers, every further attempt of an operation that is not
cancelled then gets a permit, so that the limiter refuses one to nothing but a first attempt, and no
operation ends for want of a permit: one that fails as if it did has the failure from the venue, and
the known venues do not give that failure. -/
theorem waiting_out_the_period_gets_a_permit (venue : VenueProfile) (retry : RetryConfig)
    (limiter : RateLimiter) (fresh : limiter.admitted = []) (token : Option Bool)
    (events : List DeskEvent) (attempts : 2 ≤ retry.maxAttempts.toNat)
    (delays : ∀ e ∈ events, ∀ word, e.word? = some word → ∀ n, n + 1 < retry.attempts →
      ∀ delay, retry.nextDelay? n word = some delay →
        limiter.limit.period.nanoseconds ≤ delay.nanoseconds)
    (sequential : (opened venue retry limiter token).isSequential events = true)
    (slept : (opened venue retry limiter token).sleepsOut events = true) :
  let start := opened venue retry limiter token
  (∀ before word later t task n, events = before ++ .resume t word :: later →
    let now := start.after before
    now.task? t = some task → task.stage? = some (.ready (n + 1)) → now.isCancelled = false →
      .admitted t now.clock ∈ (now.step (.resume t word)).2)
  ∧ (∀ before e later t clock, events = before ++ e :: later →
      .refused t clock ∈ ((start.after before).step e).2 → answersTo t (start.shown before) = 0)
  ∧ (∀ t failure, .finished t (.error failure) ∈ start.shown events → failure.isLimit = true →
      venue.Raises failure)
  ∧ ∀ v : Venue, venue = v.profile → ∀ t limit,
      .finished t (.error (.retryable (.rateLimitExceeded limit))) ∉ start.shown events
  := by
  intro start
  have paced : start.Paced events := by
    constructor
    · apply sole_opened
    · exact sequential
    · exact slept
    · intro e he word hword n more delay drawn
      exact delays e he word hword n more delay drawn
    · intro s hs
      have none : s ∈ limiter.admitted := hs
      rw [fresh] at none
      cases none
    · intro t task stage htask
      cases htask
  have raised (t : Ticket) (failure : Failure)
      (hfinished : .finished t (.error failure) ∈ start.shown events)
      (hlimit : failure.isLimit = true) : venue.Raises failure := by
    obtain ⟨before, e, later, rfl, hended⟩ := exists_step_of_shown hfinished
    have now := paced.after
    have hvenue : (start.after before).venue = venue := venue_after _ before
    have hretry : (start.after before).retry = retry := retry_after _ before
    obtain raises | ⟨id, request, waiting⟩ | ⟨clock, task, n, refused, htask, hready, last⟩ :=
      of_limited hended hlimit
    · rw [← hvenue]
      exact raises
    · exact absurd waiting (now.sole.unwaiting t id request)
    · -- the last attempt is refused, and would have to be the first one
      obtain ⟨task', htask', hfirst⟩ := now.first_of_refused refused
      cases htask.symm.trans htask'
      cases hready.symm.trans hfirst
      rw [hretry, RetryConfig.attempts] at last
      omega
  refine ⟨?_, ?_, raised, ?_⟩
  · rintro before word later t task n rfl now htask hready running
    have granted := paced.after.granted htask hready
    apply admitted_of_granted htask hready running granted
  · rintro before e later t clock rfl refused
    obtain ⟨task, htask, hready⟩ := paced.after.first_of_refused refused
    have none : Spends start.venue start.retry.attempts (start.task? t) 0 := .absent
    have spends := none.after before
    rw [htask, Nat.zero_add] at spends
    exact (spends.of_stage? hready).1
  · rintro v hv t limit hfinished
    have raises := raised t _ hfinished rfl
    rw [hv] at raises
    cases Venue.isLimit_of_raises raises

/-- Alpaca takes one call a second.  The second order is refused a permit at once and waits for
exactly a second; its other attempt gets one. -/
theorem refused_order_gets_a_permit_after_a_second :
  let order : Order := .market "EUR" .buy ⟨false, 1, 0, by decide, by decide⟩
  let second : Duration := ⟨1000000000, by decide⟩
  let retry : RetryConfig := ⟨2, second, 1, 0, second⟩
  let limiter : RateLimiter := ⟨⟨1, second⟩, by decide, []⟩
  let before : List DeskEvent := [
    .begin "a" (.submit order (some ⟨"x"⟩)), .resume "a" 0, .accepted "a" .empty,
    .begin "b" (.submit order (some ⟨"y"⟩))]
  let rested := before ++ [.resume "b" 0, .advance 1000000000, .paused "b"]
  let events := rested ++ [.resume "b" 0, .accepted "b" .empty]
  let start := opened Venue.alpaca retry limiter none
  .refused "b" 0 ∈ ((start.after before).step (.resume "b" 0)).2
  ∧ answersTo "b" (start.shown before) = 0
  ∧ .admitted "b" 1000000000 ∈ ((start.after rested).step (.resume "b" 0)).2
  ∧ .finished "b" (.error (.retryable (.rateLimitExceeded limiter.limit))) ∉ start.shown events
  := by
  intro order second retry limiter before rested events start
  have delays (word : UInt64) (n : Nat) (more : n + 1 < retry.attempts) (delay : Duration)
      (drawn : retry.nextDelay? n word = some delay) :
      limiter.limit.period.nanoseconds ≤ delay.nanoseconds := by
    have hattempts : retry.attempts = 2 := by decide
    obtain rfl : n = 0 := by omega
    have steady : retry.isJittered 0 = false := by decide +kernel
    have hdelay : retry.nextDelay? 0 word = some (retry.baseDelayFor 0) := by
      rw [RetryConfig.nextDelay?, steady]
      rfl
    rw [hdelay, Option.some.injEq] at drawn
    rw [← drawn]
    decide +kernel
  obtain ⟨hadmitted, hfirst, -, hended⟩ := waiting_out_the_period_gets_a_permit Venue.alpaca retry
    limiter rfl none events (by decide) (fun _ _ word _ => delays word) (by decide +kernel)
    (by decide +kernel)
  have refused : .refused "b" 0 ∈ ((start.after before).step (.resume "b" 0)).2 := by
    decide +kernel
  have due : ((start.after rested).task? "b").bind Task.stage? = some (.ready 1) := by
    decide +kernel
  obtain ⟨task, htask, hready⟩ := Option.bind_eq_some_iff.1 due
  have running : (start.after rested).isCancelled = false := by decide +kernel
  have hclock : (start.after rested).clock = 1000000000 := by decide +kernel
  refine ⟨refused, ?_, ?_, ?_⟩
  · exact hfirst before _ _ "b" 0 rfl refused
  · rw [← hclock]
    exact hadmitted rested 0 _ "b" task 0 rfl htask hready running
  · apply hended .alpaca rfl

end Desk

end OrderDesk
