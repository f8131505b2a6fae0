import OrderDesk.Proofs.Cache.Outcomes
import OrderDesk.Proofs.Desk.Acceptance

/-!
# Operations one after the other

In a sequential run an operation begins only when no other one is under way.  At most one is then
under way at any time, and no submission ever waits for another one: the one that it would wait for
would be under way as well.
-/

namespace OrderDesk

/-- Whether the operation of a task is over. -/
def Task.isOver : Task → Bool
  | .finished _ => true
  | .dropped => true
  | _ => false

theorem Task.isOver_of_stage? {task : Task} {stage : RetryStage} (h : task.stage? = some stage) :
  task.isOver = false
  := by
  cases task with
  | finished => cases h
  | dropped => cases h
  | _ => rfl

/-- Whether an operation is to begin in the event. -/
def DeskEvent.isBegin : DeskEvent → Bool
  | .begin _ _ => true
  | _ => false

namespace Desk

variable {d : Desk} {e : DeskEvent} {t u : Ticket} {task : Task} {stage : RetryStage}
  {id : ClientId} {request : Payload}

/-- Whether no operation is under way. -/
def isIdle (d : Desk) : Bool := d.tasks.entries.all fun f => f.2.isOver

/-- Whether in a sequence of events operations begin only when no other one is under way. -/
def isSequential (d : Desk) : List DeskEvent → Bool
  | [] => true
  | e :: events => (!e.isBegin || d.isIdle) && (d.step e).1.isSequential events

/-! ### Operations under way -/

/-- The operation under the ticket is under way. -/
def Active (d : Desk) (t : Ticket) : Prop := ∃ task, d.task? t = some task ∧ task.isOver = false

theorem active_of_stage? (htask : d.task? t = some task) (hstage : task.stage? = some stage) :
  d.Active t
  := ⟨task, htask, Task.isOver_of_stage? hstage⟩

theorem not_active_of_isIdle (h : d.isIdle = true) (t : Ticket) :
  ¬d.Active t
  := by
  rintro ⟨task, htask, active⟩
  have hmem : (t, task) ∈ d.tasks.entries := d.tasks.ascending.mem_iff.2 htask
  have ended := List.all_eq_true.1 h (t, task) hmem
  cases ended.symm.trans active

/-- An operation that is under way after an event was so before, or begins in it. -/
theorem Active.of_step (h : (d.step e).1.Active t) :
  d.Active t ∨ ∃ operation, e = .begin t operation
  := by
  obtain ⟨task, htask, active⟩ := h
  have asking {id : ClientId} {request : Payload}
      (h : d.task? t = none ∨ d.task? t = some (.waiting id request)) :
      d.Active t ∨ ∃ operation, e = .begin t operation := by
    obtain fresh | waiting := h
    · right
      by_contra none
      have unused := fresh_step fresh (not_exists.1 none)
      cases unused.symm.trans htask
    · exact .inl ⟨_, waiting, rfl⟩
  obtain same | ⟨task', htask', turn⟩ := d.turns_step e t
  · rw [same] at htask
    exact .inl ⟨task, htask, active⟩
  · cases htask.symm.trans htask'
    cases turn with
    | ends => cases active
    | leaves => cases active
    | crashes => cases active
    | compares e hbefore => exact .inl (active_of_stage? hbefore rfl)
    | waits e h => exact asking h
    | resolves e h => exact asking h
    | cancels => exact .inr ⟨_, rfl⟩
    | reconciles => exact .inr ⟨_, rfl⟩
    | calls word hbefore stage => exact .inl (active_of_stage? hbefore stage)
    | goesOn e hbefore stage => exact .inl (active_of_stage? hbefore stage)

/-! ### Sequential runs -/

/-- At most one operation is under way, and it does not wait for another one. -/
structure Sole (d : Desk) : Prop where
  coupled : d.Coupled
  unique {t u : Ticket} (ht : d.Active t) (hu : d.Active u) : t = u
  unwaiting (t : Ticket) (id : ClientId) (request : Payload) :
    d.task? t ≠ some (.waiting id request)

/-- A submission that waits after an event begins in it, or waited before. -/
theorem waiting_of_step (h : (d.step e).1.task? t = some (.waiting id request)) :
  d.task? t = none ∨ d.task? t = some (.waiting id request)
  := by
  obtain same | ⟨task, htask, turn⟩ := d.turns_step e t
  · exact .inr (same.symm.trans h)
  · obtain rfl : Task.waiting id request = task := Option.some.inj (h.symm.trans htask)
    generalize heq : Task.waiting id request = task at turn
    cases turn with
    | waits e asking =>
      cases heq
      exact asking
    | cancels => cases heq
    | reconciles => cases heq
    | ends => cases heq
    | leaves => cases heq
    | crashes => cases heq
    | compares => cases heq
    | resolves => cases heq
    | calls word hbefore hstage =>
      rw [Task.eq_atStage hstage heq] at hstage
      cases hstage
    | goesOn e hbefore hstage =>
      rw [Task.eq_atStage hstage heq] at hstage
      cases hstage

/-- A submission that comes to wait does so for one that calls the venue. -/
theorem Coupled.submitting_of_waits (h : d.Coupled) (fresh : d.task? t = none)
    (waits : (d.step e).1.task? t = some (.waiting id request)) :
  ∃ u request' stage, (d.step e).1.task? u = some (.submitting id request' stage)
  := by
  have after := h.step e
  obtain ⟨channel, call⟩ := after.call_of_waiting waits
  have unasked := h.call_of_fresh fresh
  obtain same | ⟨e', -, hshared⟩ := d.shared_step e
  · rw [same] at call
    cases unasked.symm.trans call
  · have begins : d.shared.BeginsToWait e' t channel := by
      constructor
      · rw [SharedCache.phase?, unasked]
        rintro ⟨⟩
      · rw [← hshared, SharedCache.phase?, call]
        rfl
    obtain ⟨id', _, request', hwaits, resolves, -⟩ := h.sound.resolves_of_beginsToWait begins
    rw [← hshared] at hwaits resolves
    cases call.symm.trans hwaits
    have fits := after.fits channel
    rw [resolves] at fits
    generalize htask : (d.step e).1.task? channel = task at fits
    cases fits with
    | submitting _ _ stage => exact ⟨channel, request', stage, htask⟩

/-- At a desk where nothing has happened no operation is under way. -/
theorem sole_opened (venue : VenueProfile) (retry : RetryConfig) (limiter : RateLimiter)
    (token : Option Bool) :
  (opened venue retry limiter token).Sole
  where
  coupled := coupled_opened venue retry limiter token
  unique {t u} ht hu := by
    obtain ⟨task, htask, -⟩ := ht
    cases htask
  unwaiting t id request := nofun

/-- An operation that begins when no other one is under way is then the only one. -/
theorem Sole.step (h : d.Sole) (alone : e.isBegin = true → d.isIdle = true) :
  (d.step e).1.Sole
  := by
  have idle {t : Ticket} {operation : Operation} (he : e = .begin t operation) (u : Ticket) :
      ¬d.Active u := by
    apply not_active_of_isIdle
    apply alone
    rw [he]
    rfl
  have unique {t u : Ticket} (ht : (d.step e).1.Active t) (hu : (d.step e).1.Active u) :
      t = u := by
    obtain ht | ⟨operation, he⟩ := ht.of_step
    · obtain hu | ⟨operation, he⟩ := hu.of_step
      · apply h.unique ht hu
      · exact absurd ht (idle he t)
    · obtain hu | ⟨operation', he'⟩ := hu.of_step
      · exact absurd hu (idle he u)
      · cases he.symm.trans he'
        rfl
  refine ⟨h.coupled.step e, unique, ?_⟩
  intro t id request waits
  have fresh : d.task? t = none := by
    obtain fresh | waiting := waiting_of_step waits
    · exact fresh
    · exact absurd waiting (h.unwaiting t id request)
  obtain ⟨u, request', stage, submitting⟩ := h.coupled.submitting_of_waits fresh waits
  have heq : t = u := by
    apply unique
    · exact ⟨_, waits, rfl⟩
    · exact ⟨_, submitting, rfl⟩
  rw [heq, submitting] at waits
  cases waits

end Desk

end OrderDesk
