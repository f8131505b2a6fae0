import Mathlib.Data.List.Nodup
import OrderDesk.Proofs.Desk.Tasks

/-!
# The operations that have begun

A ticket comes into use when an operation begins under it, and is that operation's from then on:
the tickets of a run stand for the operations that have begun in it, once each.
-/

namespace OrderDesk

/-- How an operation is audited. -/
def Operation.action : Operation → AuditAction
  | .submit _ _ => .submitOrder
  | .cancel _ => .cancelOrder
  | .reconcile => .reconcile

/-- How an operation under way is audited if it succeeds. -/
def Task.action? : Task → Option AuditAction
  | .waiting _ _ => some .submitOrder
  | .submitting _ _ _ => some .submitOrder
  | .cancelling _ _ _ => some .cancelOrder
  | .reconciling _ => some .reconcile
  | .comparing _ => some .reconcile
  | .finished _ => none
  | .dropped => none

theorem Task.action?_atStage (task : Task) (stage : RetryStage) :
  (task.atStage stage).action? = task.action?
  := by
  cases task with
  | _ => rfl

namespace Desk

variable {d : Desk} {e : DeskEvent} {t : Ticket} {action : AuditAction}

/-- The operation that begins in an event, under a ticket that is not in use. -/
def begins? (d : Desk) : DeskEvent → Option (Ticket × Operation)
  | .begin t operation =>
    if d.task? t = none ∧ d.shared.call? t = none then some (t, operation) else none
  | _ => none

/-- The operations that begin in a sequence of events, under their tickets. -/
def begun (d : Desk) : List DeskEvent → List (Ticket × Operation)
  | [] => []
  | e :: events => (d.begins? e).toList ++ (d.step e).1.begun events

/-! ### Beginnings -/

theorem begins?_eq_some {operation : Operation} :
  d.begins? e = some (t, operation)
    ↔ e = .begin t operation ∧ d.task? t = none ∧ d.shared.call? t = none
  := by
  constructor
  · intro h
    rw [begins?.eq_def] at h
    split at h
    · split at h
      next hfree =>
        cases h
        exact ⟨rfl, hfree⟩
      next => cases h
    · cases h
  · rintro ⟨rfl, hfree⟩
    exact if_pos hfree

/-- A submission that begins with a call on the cache is under way or has returned. -/
theorem used_followCall {id : ClientId} {request : Payload} {phase : CallPhase}
    (hcall : d.shared.call? t = some ⟨id, request, phase⟩) (hlive : phase ≠ .dropped) :
  (d.followCall t id request).1.task? t ≠ none
  := by
  rw [followCall, hcall]
  cases phase with
  | waiting => simp
  | resolving => simp
  | returned outcome =>
    obtain ⟨audit, result, hends⟩ := d.returnSubmitted_ends t id request outcome
    simp [hends]
  | dropped => exact absurd rfl hlive

theorem used_submit (unasked : d.shared.call? t = none) (order : Order)
    (clientId : Option ClientId) :
  (d.submit t order clientId).1.task? t ≠ none
  := by
  rw [submit, resolveId_eq]
  split
  · dsimp only
    rcases d.venue.buildRequest (d.resolveId clientId).2 order with failure | request
    · simp [finish]
    · obtain ⟨phase, hcall, hlive⟩ := call?_remember unasked (d.resolveId clientId).2 request
      apply used_followCall hcall hlive
  · simp [finish]

theorem used_cancelOrder (d : Desk) (t : Ticket) (id : ClientId) :
  (d.cancelOrder t id).1.task? t ≠ none
  := by
  rw [cancelOrder]
  split
  · simp [finish]
  · split
    · simp [finish]
    · simp

/-- The ticket of an operation that begins comes into use. -/
theorem used_of_begins? {operation : Operation} (h : d.begins? e = some (t, operation)) :
  (d.step e).1.task? t ≠ none
  := by
  obtain ⟨rfl, fresh, unasked⟩ := begins?_eq_some.1 h
  rw [step, begin.eq_def, fresh, unasked]
  cases operation with
  | submit order clientId => apply used_submit unasked order clientId
  | cancel id => apply used_cancelOrder d t id
  | reconcile => simp

theorem action?_followCall {id : ClientId} {request : Payload} {task : Task}
    (fresh : d.task? t = none) (htask : (d.followCall t id request).1.task? t = some task)
    (hactive : task.action? = some action) :
  action = .submitOrder
  := by
  rw [followCall] at htask
  split at htask
  · rw [task?_setTask, if_pos rfl] at htask
    cases htask
    cases hactive
    rfl
  · rw [task?_setTask, if_pos rfl] at htask
    cases htask
    cases hactive
    rfl
  next outcome hcall =>
    obtain ⟨audit, result, hends⟩ := d.returnSubmitted_ends t id request outcome
    rw [hends, task?_setTask, if_pos rfl] at htask
    cases htask
    cases hactive
  · cases fresh.symm.trans htask

/-- A ticket that comes into use is that of an operation that begins, and is audited as such. -/
theorem begins?_of_step (hd : d.Coupled) (fresh : d.task? t = none) {task : Task}
    (htask : (d.step e).1.task? t = some task) :
  ∃ operation, d.begins? e = some (t, operation)
    ∧ ∀ action, task.action? = some action → operation.action = action
  := by
  obtain ⟨operation, rfl⟩ : ∃ operation, e = .begin t operation := by
    apply Classical.byContradiction
    intro hother
    have unused := fresh_step fresh fun operation heq => hother ⟨operation, heq⟩
    cases unused.symm.trans htask
  refine ⟨operation, begins?_eq_some.2 ⟨rfl, fresh, hd.call_of_fresh fresh⟩, ?_⟩
  intro action hactive
  have m := d.step_move (.begin t operation)
  generalize d.step (.begin t operation) = p at m htask
  cases m with
  | rest => cases fresh.symm.trans htask
  | reject =>
    obtain rfl : Task.finished _ = task := by simpa [finish] using htask
    cases hactive
  | submit =>
    refine (action?_followCall ?_ htask hactive).symm
    exact fresh
  | cancelOrder =>
    obtain rfl : Task.cancelling _ _ _ = task := by simpa using htask
    cases hactive
    rfl
  | reconcile =>
    obtain rfl : Task.reconciling _ = task := by simpa using htask
    cases hactive
    rfl
  | retry htask retries => cases retries

/-- An operation that goes on is audited as the same. -/
theorem action?_of_step {task task' : Task} (htask : d.task? t = some task)
    (htask' : (d.step e).1.task? t = some task') (hactive : task'.action? = some action) :
  task.action? = some action
  := by
  obtain hsame | ⟨task'', hafter, turn⟩ := d.turns_step e t
  · rw [hsame, htask] at htask'
    cases htask'
    exact hactive
  · rw [htask'] at hafter
    cases hafter
    cases turn with
    | ends => cases hactive
    | leaves => cases hactive
    | crashes => cases hactive
    | waits e asking =>
      obtain fresh | hwaiting := asking
      · cases fresh.symm.trans htask
      · cases hwaiting.symm.trans htask
        exact hactive
    | resolves e asking =>
      obtain fresh | hwaiting := asking
      · cases fresh.symm.trans htask
      · cases hwaiting.symm.trans htask
        exact hactive
    | cancels fresh => cases fresh.symm.trans htask
    | reconciles fresh => cases fresh.symm.trans htask
    | compares e hbefore =>
      cases hbefore.symm.trans htask
      exact hactive
    | calls word hbefore =>
      cases hbefore.symm.trans htask
      rw [Task.action?_atStage] at hactive
      exact hactive
    | goesOn e hbefore =>
      cases hbefore.symm.trans htask
      rw [Task.action?_atStage] at hactive
      exact hactive

/-! ### Runs -/

theorem begun_append (d : Desk) (events later : List DeskEvent) :
  d.begun (events ++ later) = d.begun events ++ (d.after events).begun later
  := by
  induction events generalizing d with
  | nil => rfl
  | cons e events ih => rw [List.cons_append, begun, begun, ih, after_cons, List.append_assoc]

/-- The operations that have begun, once each: a task is that of one of them, which it is audited
as. -/
structure Begun (d : Desk) (operations : List (Ticket × Operation)) : Prop where
  coupled : d.Coupled
  once : (operations.map Prod.fst).Nodup
  used {t : Ticket} {operation : Operation} (h : (t, operation) ∈ operations) : d.task? t ≠ none
  active {t : Ticket} {task : Task} {action : AuditAction} (htask : d.task? t = some task)
    (hactive : task.action? = some action) :
    ∃ operation, (t, operation) ∈ operations ∧ operation.action = action

theorem Begun.step {operations : List (Ticket × Operation)} (h : d.Begun operations)
    (e : DeskEvent) :
  (d.step e).1.Begun (operations ++ (d.begins? e).toList)
  := by
  constructor
  · apply h.coupled.step e
  · cases hbegins : d.begins? e with
    | none => simpa using h.once
    | some begins =>
      obtain ⟨t, operation⟩ := begins
      have unused : t ∉ operations.map Prod.fst := by
        intro hmem
        obtain ⟨⟨_, operation'⟩, hbegun, rfl⟩ := List.mem_map.1 hmem
        obtain ⟨-, fresh, -⟩ := begins?_eq_some.1 hbegins
        exact h.used hbegun fresh
      rw [Option.toList_some, List.map_append, List.nodup_append_comm]
      exact List.nodup_cons.2 ⟨unused, h.once⟩
  · intro t operation hmem
    obtain hmem | hmem := List.mem_append.1 hmem
    · apply used_step (h.used hmem)
    · apply used_of_begins?
      exact Option.mem_toList.1 hmem
  · intro t task action htask hactive
    rcases hbefore : d.task? t with _ | task'
    · obtain ⟨operation, hbegins, haction⟩ := begins?_of_step h.coupled hbefore htask
      use operation
      constructor
      · exact List.mem_append_right _ (Option.mem_toList.2 hbegins)
      · exact haction action hactive
    · obtain ⟨operation, hmem, haction⟩ := h.active hbefore
        (action?_of_step hbefore htask hactive)
      exact ⟨operation, List.mem_append_left _ hmem, haction⟩

end Desk

end OrderDesk
