import Mathlib.Tactic.Use
import OrderDesk.Desk.Builder
import OrderDesk.Proofs.Cache.Calls
import OrderDesk.Proofs.Desk.Moves

/-!
# Tasks and their calls

A submission asks the cache under the ticket of its task, so that a task and the call under its
ticket go through their phases together: the task waits while the call waits, calls the venue
while the call resolves, and has ended once the call has returned.  That every task fits its call,
and that the cache is sound, is preserved by every step of a desk.
-/

namespace OrderDesk

namespace Desk

variable {d d' : Desk} {t : Ticket} {id : ClientId} {request : Payload}

/-! ### Endings -/

/-- The task ends with a result; otherwise only the audit log may have changed. -/
def Ends (d : Desk) (t : Ticket) (p : Desk × List DeskEffect) : Prop :=
  ∃ audit result, p = ({ d with audit }.setTask t (.finished result), [.finished t result])

theorem finish_ends (d : Desk) (t : Ticket) (result : Result) :
  d.Ends t (d.finish t result)
  := ⟨d.audit, result, rfl⟩

theorem returnSubmitted_ends (d : Desk) (t : Ticket) (id : ClientId) (request : Payload)
    (outcome : Outcome) :
  d.Ends t (d.returnSubmitted t id request outcome)
  := by
  cases outcome with
  | ok response => exact ⟨_, _, rfl⟩
  | error failure => apply d.finish_ends t _

theorem settleSubmitted_ends (d : Desk) (t : Ticket) (id : ClientId) (request : Payload)
    (outcome : Outcome) :
  { d with shared := d.shared.settle t (outcome.map (d.venue.annotate id request)) }.Ends t
    (d.settleSubmitted t id request outcome)
  := returnSubmitted_ends _ t id request _

theorem acknowledge_ends (d : Desk) (t : Ticket) (id : ClientId) (target : CancelTarget)
    (raw : Option Payload) :
  { d with shared := d.shared.update id (d.venue.cancelResponse target raw) }.Ends t
    (d.acknowledge t id target raw)
  := ⟨_, _, rfl⟩

theorem report_ends (d : Desk) (t : Ticket) (orders : List Payload) :
  d.Ends t (d.report t orders)
  := ⟨_, _, rfl⟩

/-- A task that gives up ends; if it was a submission, it settles with the failure before.  Only a
reconciliation may go on to compare instead. -/
theorem giveUp_cases (d : Desk) (t : Ticket) {task : Task} {stage : RetryStage}
    (hstage : task.stage? = some stage) (failure : Failure) :
  (∃ id request, task = .submitting id request stage
      ∧ { d with shared := d.shared.settle t (.error failure) }.Ends t (d.giveUp t task failure))
  ∨ (∀ id request stage, task ≠ .submitting id request stage)
      ∧ d.Ends t (d.giveUp t task failure)
  ∨ task = .reconciling stage ∧ d.giveUp t task failure = (d.setTask t (.comparing []), [])
  := by
  cases task with
  | submitting id request stage' =>
    cases hstage
    exact .inl ⟨id, request, rfl, d.settleSubmitted_ends t id request (.error failure)⟩
  | cancelling id target stage' => exact .inr (.inl ⟨nofun, d.finish_ends t _⟩)
  | reconciling stage' =>
    cases hstage
    right
    rw [giveUp]
    split
    · exact .inl ⟨nofun, d.finish_ends t _⟩
    · exact .inr ⟨rfl, rfl⟩
  | waiting => cases hstage
  | comparing => cases hstage
  | finished => cases hstage
  | dropped => cases hstage

/-- A task whose retries go on comes to another stage. -/
theorem follow_goOn (d : Desk) (t : Ticket) (task : Task) (stage : RetryStage) :
  (d.follow t task (.goOn stage)).1 = d.setTask t (task.atStage stage)
  := by
  cases stage with
  | ready => rfl
  | running => rfl
  | pausing => rfl

/-! ### Calls that get on -/

/-- A new call is in the phase that it found the slot of its id in. -/
theorem call?_remember_of_unasked {s : SharedCache} (unasked : s.call? t = none) (id : ClientId)
    (request : Payload) :
  (s.remember t id request).call? t
    = some ⟨id, request, SharedCache.phaseOf (s.cache.enter t id (.of request)).2⟩
  := by
  rw [SharedCache.remember, unasked]
  apply SharedCache.call?_ask

theorem call?_remember {s : SharedCache} (unasked : s.call? t = none) (id : ClientId)
    (request : Payload) :
  ∃ phase, (s.remember t id request).call? t = some ⟨id, request, phase⟩ ∧ phase ≠ .dropped
  := ⟨_, call?_remember_of_unasked unasked id request, SharedCache.phaseOf_ne_dropped _⟩

theorem call?_wake {s : SharedCache} {channel : Ticket}
    (call : s.call? t = some ⟨id, request, .waiting channel⟩) :
  ∃ phase, (s.wake t).call? t = some ⟨id, request, phase⟩ ∧ phase ≠ .dropped
  := by
  rw [SharedCache.wake, call]
  rcases hchannel : s.cache.channel? channel with _ | ⟨_ | outcome | _⟩
  · simp [hchannel, call]
  · simp [hchannel, call]
  · simp [hchannel]
  · simp only [hchannel]
    exact ⟨_, s.call?_ask t id request, SharedCache.phaseOf_ne_dropped _⟩

theorem call?_settle {s : SharedCache} (call : s.call? t = some ⟨id, request, .resolving⟩)
    (outcome : Outcome) :
  (s.settle t outcome).call? t = some ⟨id, request, .returned outcome⟩
  := by
  rw [SharedCache.settle, call]
  simp

/-! ### Tasks that fit their calls -/

/-- The task and the call under a ticket are in phases that go together; the operations that do
not submit have no call. -/
inductive Fits : Option Task → Option CacheCall → Prop where
  | absent : Fits none none
  | waiting (id : ClientId) (request : Payload) (channel : Ticket) :
      Fits (some (.waiting id request)) (some ⟨id, request, .waiting channel⟩)
  | submitting (id : ClientId) (request : Payload) (stage : RetryStage) :
      Fits (some (.submitting id request stage)) (some ⟨id, request, .resolving⟩)
  | cancelling (id : ClientId) (target : CancelTarget) (stage : RetryStage) :
      Fits (some (.cancelling id target stage)) none
  | reconciling (stage : RetryStage) : Fits (some (.reconciling stage)) none
  | comparing (orders : List Payload) : Fits (some (.comparing orders)) none
  | finished (result : Result) : Fits (some (.finished result)) none
  | returned (result : Result) (id : ClientId) (request : Payload) (outcome : Outcome) :
      Fits (some (.finished result)) (some ⟨id, request, .returned outcome⟩)
  | dropped : Fits (some .dropped) none
  | left (id : ClientId) (request : Payload) :
      Fits (some .dropped) (some ⟨id, request, .dropped⟩)

namespace Fits

theorem call_of_waiting {call : Option CacheCall} (h : Fits (some (.waiting id request)) call) :
  ∃ channel, call = some ⟨id, request, .waiting channel⟩
  := by
  cases h with
  | waiting _ _ channel => exact ⟨channel, rfl⟩

theorem call_of_submitting {stage : RetryStage} {call : Option CacheCall}
    (h : Fits (some (.submitting id request stage)) call) :
  call = some ⟨id, request, .resolving⟩
  := by
  cases h with
  | submitting => rfl

/-- A task that calls the venue and is no submission has no call on the cache. -/
theorem call_eq_none {task : Task} {stage : RetryStage} {call : Option CacheCall}
    (h : Fits (some task) call) (hstage : task.stage? = some stage)
    (hother : ∀ id request stage, task ≠ .submitting id request stage) :
  call = none
  := by
  cases h with
  | waiting => cases hstage
  | submitting id request stage => exact absurd rfl (hother id request stage)
  | cancelling => rfl
  | reconciling => rfl
  | comparing => cases hstage
  | finished => cases hstage
  | returned => cases hstage
  | dropped => cases hstage
  | left => cases hstage

/-- A task fits its call at every stage. -/
theorem atStage {task : Task} {call : Option CacheCall} (h : Fits (some task) call)
    (stage : RetryStage) :
  Fits (some (task.atStage stage)) call
  := by
  cases h with
  | waiting id request channel => exact .waiting id request channel
  | submitting id request _ => exact .submitting id request stage
  | cancelling id target _ => exact .cancelling id target stage
  | reconciling _ => exact .reconciling stage
  | comparing orders => exact .comparing orders
  | finished result => exact .finished result
  | returned result id request outcome => exact .returned result id request outcome
  | dropped => exact .dropped
  | left id request => exact .left id request

/-- Dropping the call under a ticket goes with dropping the task. -/
theorem abort {task : Task} {s : SharedCache} (h : Fits (some task) (s.call? t))
    (unfinished : ∀ result, task ≠ .finished result) :
  Fits (some .dropped) ((s.abort t).call? t)
  := by
  generalize hcall : s.call? t = call at h
  cases h with
  | waiting id request channel =>
    simpa [SharedCache.abort, hcall] using Fits.left id request
  | submitting id request stage =>
    simpa [SharedCache.abort, hcall] using Fits.left id request
  | cancelling => simpa [SharedCache.abort, hcall] using Fits.dropped
  | reconciling => simpa [SharedCache.abort, hcall] using Fits.dropped
  | comparing => simpa [SharedCache.abort, hcall] using Fits.dropped
  | finished result => exact absurd rfl (unfinished result)
  | returned result => exact absurd rfl (unfinished result)
  | dropped => simpa [SharedCache.abort, hcall] using Fits.dropped
  | left id request => simpa [SharedCache.abort, hcall] using Fits.left id request

end Fits

/-- The cache of the desk is sound, and every task fits the call under its ticket. -/
structure Coupled (d : Desk) : Prop where
  sound : d.shared.Sound
  fits (t : Ticket) : Fits (d.task? t) (d.shared.call? t)

/-- The cache of the desk is sound, and every task but one fits the call under its ticket. -/
structure CoupledBut (d : Desk) (t : Ticket) : Prop where
  sound : d.shared.Sound
  fits {u : Ticket} (hne : u ≠ t) : Fits (d.task? u) (d.shared.call? u)

theorem Coupled.but (h : d.Coupled) (t : Ticket) :
  d.CoupledBut t
  := ⟨h.sound, fun _ => h.fits _⟩

/-- When the call under a ticket gets on, the other tasks go on fitting their calls. -/
theorem Coupled.step_but (h : d.Coupled) {t : Ticket} {e : CacheEvent}
    (ticket : e.ticket? = some t ∨ e.ticket? = none) :
  { d with shared := d.shared.step e }.CoupledBut t
  := by
  constructor
  · apply h.sound.step e
  · intro u hne
    have hother : e.ticket? ≠ some u := by
      obtain hticket | hticket := ticket
      · rw [hticket]
        rintro ⟨⟩
        apply hne rfl
      · rw [hticket]
        exact nofun
    have hfits := h.fits u
    rw [← SharedCache.call?_step_of_ticket_ne hother] at hfits
    exact hfits

namespace CoupledBut

theorem setTask (h : d.CoupledBut t) {task : Task} (hfits : Fits (some task) (d.shared.call? t)) :
  (d.setTask t task).Coupled
  := by
  constructor
  · exact h.sound
  · intro u
    rw [task?_setTask, shared_setTask]
    split
    next heq =>
      rw [heq]
      exact hfits
    next hne => apply h.fits hne

theorem ends (h : d.CoupledBut t) {p : Desk × List DeskEffect} (hends : d.Ends t p)
    (hfits : ∀ result, Fits (some (.finished result)) (d.shared.call? t)) :
  p.1.Coupled
  := by
  obtain ⟨audit, result, rfl⟩ := hends
  have h' : { d with audit }.CoupledBut t := ⟨h.sound, h.fits⟩
  apply h'.setTask (hfits result)

/-- A submission fits its call when it has gone on according to it. -/
theorem followCall (h : d.CoupledBut t) {phase : CallPhase}
    (hcall : d.shared.call? t = some ⟨id, request, phase⟩) (hlive : phase ≠ .dropped) :
  (d.followCall t id request).1.Coupled
  := by
  rw [Desk.followCall, hcall]
  cases phase with
  | waiting channel =>
    apply h.setTask
    rw [hcall]
    exact .waiting id request channel
  | resolving =>
    apply h.setTask
    rw [hcall]
    exact .submitting id request .start
  | returned outcome =>
    apply h.ends (d.returnSubmitted_ends t id request outcome)
    intro result
    rw [hcall]
    exact .returned result id request outcome
  | dropped => exact absurd rfl hlive

end CoupledBut

namespace Coupled

/-- A ticket that is in use by no task is in use by no call. -/
theorem call_of_fresh (h : d.Coupled) (fresh : d.task? t = none) :
  d.shared.call? t = none
  := by
  have hfits := h.fits t
  rw [fresh] at hfits
  generalize d.shared.call? t = call at hfits
  cases hfits with
  | absent => rfl

theorem call_of_waiting (h : d.Coupled) (htask : d.task? t = some (.waiting id request)) :
  ∃ channel, d.shared.call? t = some ⟨id, request, .waiting channel⟩
  := by
  apply Fits.call_of_waiting
  rw [← htask]
  apply h.fits t

theorem call_of_submitting (h : d.Coupled) {stage : RetryStage}
    (htask : d.task? t = some (.submitting id request stage)) :
  d.shared.call? t = some ⟨id, request, .resolving⟩
  := by
  apply Fits.call_of_submitting
  rw [← htask]
  apply h.fits t

/-- A submission that calls the venue has its outcome. -/
theorem settleSubmitted (h : d.Coupled) {stage : RetryStage}
    (htask : d.task? t = some (.submitting id request stage)) (outcome : Outcome) :
  (d.settleSubmitted t id request outcome).1.Coupled
  := by
  have hcall := h.call_of_submitting htask
  have hbut := h.step_but (e := .settle t (outcome.map (d.venue.annotate id request))) (.inl rfl)
  apply hbut.ends (d.settleSubmitted_ends t id request outcome)
  intro result
  have hreturned := call?_settle hcall (outcome.map (d.venue.annotate id request))
  exact hreturned ▸ .returned result id request _

/-- A task whose retries end without a success gives up. -/
theorem giveUp (h : d.Coupled) {task : Task} {stage : RetryStage} (htask : d.task? t = some task)
    (hstage : task.stage? = some stage) (failure : Failure) :
  (d.giveUp t task failure).1.Coupled
  := by
  have hfits : Fits (some task) (d.shared.call? t) := htask ▸ h.fits t
  obtain ⟨id, request, rfl, -⟩ | ⟨hother, hends⟩ | ⟨rfl, heq⟩ := d.giveUp_cases t hstage failure
  · apply h.settleSubmitted htask (.error failure)
  · apply (h.but t).ends hends
    intro result
    rw [hfits.call_eq_none hstage hother]
    exact .finished result
  · rw [heq]
    apply (h.but t).setTask
    rw [hfits.call_eq_none hstage nofun]
    exact .comparing []

/-- A task that has not ended is dropped. -/
theorem drop (h : d.Coupled) {task : Task} (htask : d.task? t = some task)
    (unfinished : ∀ result, task ≠ .finished result) :
  (d.drop t).1.Coupled
  := by
  have hbut := h.step_but (e := .abort t) (.inl rfl)
  have hfits : Fits (some task) (d.shared.call? t) := htask ▸ h.fits t
  apply hbut.setTask (hfits.abort unfinished)

theorem follow (h : d.Coupled) {task : Task} {stage : RetryStage} (htask : d.task? t = some task)
    (hstage : task.stage? = some stage) (next : RetryStep Empty) :
  (d.follow t task next).1.Coupled
  := by
  cases next with
  | finish result =>
    cases result with
    | ok a => exact a.elim
    | error failure => apply h.giveUp htask hstage failure
  | crash =>
    apply h.drop htask
    rintro result rfl
    cases hstage
  | goOn stage' =>
    rw [follow_goOn]
    have hfits : Fits (some task) (d.shared.call? t) := htask ▸ h.fits t
    exact (h.but t).setTask (hfits.atStage stage')

theorem move (h : d.Coupled) {e : DeskEvent} {p : Desk × List DeskEffect} (m : d.Move e p) :
  p.1.Coupled
  := by
  cases m with
  | rest => exact h
  | @reject t _ sequence failure fresh unasked rejects =>
    have hbut : { d with sequence }.CoupledBut t := ⟨h.sound, fun _ => h.fits _⟩
    apply hbut.ends (finish_ends _ t _)
    intro result
    rw [unasked]
    exact .finished result
  | @submit t order clientId request fresh unasked complete built =>
    have hbut := h.step_but (e := .remember t (d.resolveId clientId).2 request) (.inl rfl)
    obtain ⟨phase, hcall, hlive⟩ := call?_remember unasked (d.resolveId clientId).2 request
    have hbut' : { d with
        shared := d.shared.remember t (d.resolveId clientId).2 request
        sequence := (d.resolveId clientId).1.sequence }.CoupledBut t := ⟨hbut.sound, hbut.fits⟩
    apply hbut'.followCall hcall hlive
  | cancelOrder fresh unasked cached named =>
    apply (h.but _).setTask
    rw [unasked]
    exact .cancelling _ _ .start
  | reconcile fresh unasked =>
    apply (h.but _).setTask
    rw [unasked]
    exact .reconciling .start
  | @call t task n call limiter word htask stage made running permit =>
    have hbut : { d with limiter }.CoupledBut t := ⟨h.sound, fun _ => h.fits _⟩
    apply hbut.setTask
    have hfits : Fits (some task) (d.shared.call? t) := htask ▸ h.fits t
    apply hfits.atStage (.running n)
  | @retry t task _ limiter shown next htask retries =>
    have h' : { d with limiter }.Coupled := ⟨h.sound, h.fits⟩
    obtain ⟨stage, hstage⟩ := retries.exists_stage
    apply h'.follow htask hstage next
  | accept response htask => apply h.settleSubmitted htask (.ok response)
  | @acknowledge t id target n raw htask =>
    have hfits : Fits (some (.cancelling id target (.running n))) (d.shared.call? t) :=
      htask ▸ h.fits t
    have hbut := h.step_but (t := t) (e := .update id
      (d.venue.cancelResponse target raw)) (.inr rfl)
    apply hbut.ends (d.acknowledge_ends t id target raw)
    intro result
    have hcall : d.shared.call? t = none := hfits.call_eq_none rfl nofun
    exact hcall ▸ Fits.finished result
  | @list t n orders htask =>
    have hfits : Fits (some (.reconciling (.running n))) (d.shared.call? t) := htask ▸ h.fits t
    apply (h.but t).setTask
    rw [hfits.call_eq_none rfl nofun]
    exact .comparing orders
  | @compare t orders htask =>
    have hfits : Fits (some (.comparing orders)) (d.shared.call? t) := htask ▸ h.fits t
    apply (h.but t).ends (d.report_ends t orders)
    intro result
    generalize d.shared.call? t = call at hfits
    cases hfits
    exact .finished result
  | @wake t id request htask =>
    have hbut := h.step_but (e := .wake t) (.inl rfl)
    obtain ⟨channel, hcall⟩ := h.call_of_waiting htask
    obtain ⟨phase, hcall', hlive⟩ := call?_wake hcall
    apply hbut.followCall hcall' hlive
  | abort htask unfinished => apply h.drop htask unfinished
  | cancel => exact ⟨h.sound, h.fits⟩
  | advance => exact ⟨h.sound, h.fits⟩
  | update id response => exact ⟨h.sound.step (.update id response), h.fits⟩

theorem step (h : d.Coupled) (e : DeskEvent) :
  (d.step e).1.Coupled
  := h.move (d.step_move e)

theorem after (h : d.Coupled) (events : List DeskEvent) :
  (d.after events).Coupled
  := by
  apply after_induction _ h
  intro e _ d h
  apply h.step e

end Coupled

/-- At a desk where nothing has happened there are no tasks and no calls. -/
theorem coupled_opened (venue : VenueProfile) (retry : RetryConfig) (limiter : RateLimiter)
    (token : Option Bool) :
  (opened venue retry limiter token).Coupled
  := by
  constructor
  · exact SharedCache.sound_empty
  · intro t
    exact .absent

end Desk

end OrderDesk
