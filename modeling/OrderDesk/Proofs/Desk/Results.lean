import OrderDesk.Proofs.Desk.Effects

/-!
# Results are shown once

The result of an operation is shown in the step in which its task comes to be finished, and in no
other: what a run has shown of results is what its tasks have come to.
-/

namespace OrderDesk

namespace Desk

variable {d d' : Desk} {e : DeskEvent} {t u : Ticket} {result : Result}

/-- The results shown are those of the tasks that come to be finished. -/
def Returns (d : Desk) (p : Desk × List DeskEffect) : Prop :=
  ∀ t result, .finished t result ∈ p.2
    ↔ d.Unfinished t ∧ p.1.task? t = some (.finished result)

/-- No result is shown, and tasks are left as they are. -/
theorem returns_of_tasks {effects : List DeskEffect} (htasks : d'.tasks = d.tasks)
    (silent : ∀ t result, .finished t result ∉ effects) :
  d.Returns (d', effects)
  := by
  intro t result
  have htask : d'.task? t = d.task? t := by rw [task?, htasks, task?]
  constructor
  · intro h
    exact absurd h (silent t result)
  · rintro ⟨unfinished, h⟩
    rw [htask] at h
    exact absurd h (unfinished result)

/-- No result is shown, and a task is left that is not finished. -/
theorem returns_of_setTask {effects : List DeskEffect} {task : Task}
    (htasks : d'.tasks = d.tasks) (unfinished : ∀ result, task ≠ .finished result)
    (silent : ∀ t result, .finished t result ∉ effects) :
  d.Returns (d'.setTask u task, effects)
  := by
  intro t result
  constructor
  · intro h
    exact absurd h (silent t result)
  · rintro ⟨hbefore, h⟩
    rw [task?_setTask] at h
    split at h
    · exact absurd (Option.some.inj h) (unfinished result)
    · rw [task?, htasks] at h
      exact absurd h (hbefore result)

/-- A task ends, and its result is shown. -/
theorem Ends.returns {p : Desk × List DeskEffect} (h : d'.Ends u p) (htasks : d'.tasks = d.tasks)
    (unfinished : d.Unfinished u) :
  d.Returns p
  := by
  obtain ⟨audit, result', rfl⟩ := h
  intro t result
  rw [task?_setTask, List.mem_singleton]
  constructor
  · rintro ⟨⟩
    rw [if_pos rfl]
    exact ⟨unfinished, rfl⟩
  · rintro ⟨hbefore, h⟩
    split at h
    next heq =>
      cases h
      rw [heq]
    next hne =>
      have htask : d'.task? t = d.task? t := by rw [task?, htasks, task?]
      exact absurd (htask.symm.trans h) (hbefore result)

theorem returns_followCall {id : ClientId} {request : Payload} (htasks : d'.tasks = d.tasks)
    (unfinished : d.Unfinished u) :
  d.Returns (d'.followCall u id request)
  := by
  rw [followCall]
  split
  · exact returns_of_setTask htasks (by simp) (by simp)
  · exact returns_of_setTask htasks (by simp) (by simp)
  · exact (d'.returnSubmitted_ends u id request _).returns htasks unfinished
  · exact returns_of_tasks htasks (by simp)

theorem returns_follow {task : Task} {stage : RetryStage} (htasks : d'.tasks = d.tasks)
    (unfinished : d.Unfinished u) (hstage : task.stage? = some stage) (next : RetryStep Empty) :
  d.Returns (d'.follow u task next)
  := by
  cases next with
  | finish result =>
    cases result with
    | ok a => exact a.elim
    | error failure =>
      obtain ⟨id, request, rfl, hends⟩ | ⟨-, hends⟩ | ⟨-, heq⟩ :=
        d'.giveUp_cases u hstage failure
      · exact hends.returns htasks unfinished
      · exact hends.returns htasks unfinished
      · rw [follow, heq]
        exact returns_of_setTask htasks (by simp) (by simp)
  | crash => exact returns_of_setTask htasks (by simp) (by simp)
  | goOn stage' =>
    have silent := Task.ne_finished_of_stage? (Task.stage?_atStage hstage stage')
    cases stage' with
    | ready => exact returns_of_setTask htasks silent (by simp)
    | running => exact returns_of_setTask htasks silent (by simp)
    | pausing => exact returns_of_setTask htasks silent (by simp)

theorem Retries.not_finished {task : Task} {limiter : RateLimiter} {shown : List DeskEffect}
    {next : RetryStep Empty} (h : d.Retries t task e limiter shown next) (u : Ticket)
    (result : Result) :
  .finished u result ∉ shown
  := by
  cases h with
  | refused => simp
  | _ => exact nofun

/-- A result is shown exactly in the step in which the task comes to be finished with it. -/
theorem returns_step (d : Desk) (e : DeskEvent) :
  d.Returns (d.step e)
  := by
  have m := d.step_move e
  generalize d.step e = p at m
  cases m with
  | rest => exact returns_of_tasks rfl (by simp)
  | reject fresh => exact (finish_ends _ _ _).returns rfl (unfinished_of_fresh fresh)
  | submit fresh => exact returns_followCall rfl (unfinished_of_fresh fresh)
  | cancelOrder => exact returns_of_setTask rfl (by simp) (by simp)
  | reconcile => exact returns_of_setTask rfl (by simp) (by simp)
  | @call t task n call limiter word htask stage =>
    have silent := Task.ne_finished_of_stage? (Task.stage?_atStage stage (.running n))
    exact returns_of_setTask rfl silent (by simp)
  | @retry t task _ limiter shown next htask retries =>
    obtain ⟨stage, hstage⟩ := retries.exists_stage
    have unfinished := unfinished_of_task? htask (Task.ne_finished_of_stage? hstage)
    have h : d.Returns ({ d with limiter }.follow t task next) := by
      apply returns_follow _ unfinished hstage next
      rfl
    intro u result
    apply Iff.trans _ (h u result)
    rw [List.mem_append, or_iff_right (retries.not_finished u result)]
  | accept response htask =>
    exact (settleSubmitted_ends _ _ _ _ _).returns rfl (unfinished_of_task? htask (by simp))
  | acknowledge raw htask =>
    exact (acknowledge_ends _ _ _ _ _).returns rfl (unfinished_of_task? htask (by simp))
  | list => exact returns_of_setTask rfl (by simp) (by simp)
  | compare htask => exact (report_ends _ _ _).returns rfl (unfinished_of_task? htask (by simp))
  | wake htask => exact returns_followCall rfl (unfinished_of_task? htask (by simp))
  | abort => exact returns_of_setTask rfl (by simp) (by simp)
  | cancel => exact returns_of_tasks rfl (by simp)
  | advance => exact returns_of_tasks rfl (by simp)
  | update => exact returns_of_tasks rfl (by simp)

/-! ### Runs -/

theorem finished_after (h : d.task? t = some (.finished result)) (events : List DeskEvent) :
  (d.after events).task? t = some (.finished result)
  := by
  induction events generalizing d with
  | nil => exact h
  | cons e events ih =>
    rw [after_cons]
    apply ih (finished_step h e)

/-- An operation that has not returned after an event had not before. -/
theorem Unfinished.of_step (h : (d.step e).1.Unfinished t) :
  d.Unfinished t
  := by
  intro result htask
  exact h result (finished_step htask e)

/-- What a run shows of results is what the tasks come to in it. -/
theorem returns_after (d : Desk) (events : List DeskEvent) :
  d.Returns (d.after events, d.shown events)
  := by
  induction events generalizing d with
  | nil => exact returns_of_tasks rfl nofun
  | cons e events ih =>
    intro t result
    rw [shown_cons, List.mem_append, after_cons, d.returns_step e t result, ih _ t result]
    constructor
    · rintro (⟨unfinished, htask⟩ | ⟨unfinished, hafter⟩)
      · exact ⟨unfinished, finished_after htask events⟩
      · exact ⟨unfinished.of_step, hafter⟩
    · rintro ⟨unfinished, hafter⟩
      by_cases hstep : ∃ result', (d.step e).1.task? t = some (.finished result')
      · obtain ⟨result', htask⟩ := hstep
        have hsame := finished_after htask events
        rw [hafter] at hsame
        cases hsame
        exact .inl ⟨unfinished, htask⟩
      · exact .inr ⟨fun result' htask => hstep ⟨result', htask⟩, hafter⟩

/-- An event shows one result of an operation at the most. -/
theorem result_unique {result' : Result} (h : .finished t result ∈ (d.step e).2)
    (h' : .finished t result' ∈ (d.step e).2) :
  result = result'
  := by
  have htask := ((d.returns_step e t result).1 h).2
  cases htask.symm.trans ((d.returns_step e t result').1 h').2
  rfl

/-- An operation returns in one event of a run only, and with one result. -/
theorem finished_once {result' : Result} {e' : DeskEvent}
    {before after before' after' : List DeskEvent}
    (h : .finished t result ∈ ((d.after before).step e).2)
    (h' : .finished t result' ∈ ((d.after before').step e').2)
    (heq : before ++ e :: after = before' ++ e' :: after') :
  before = before' ∧ result = result'
  := by
  -- what has returned before an event does not return in it
  have apart {result result' : Result} {e e' : DeskEvent} {before between : List DeskEvent}
      (h : .finished t result ∈ ((d.after before).step e).2) :
      .finished t result' ∉ ((d.after (before ++ e :: between)).step e').2 := by
    intro h'
    have htask := (returns_step _ e t result).1 h
    have unfinished := (returns_step _ e' t result').1 h'
    rw [after_append, after_cons] at unfinished
    exact unfinished.1 result (finished_after htask.2 between)
  obtain ⟨between, rfl, hrest⟩ | ⟨between, rfl, hrest⟩ := List.append_eq_append_iff.1 heq
  · cases between with
    | nil =>
      cases hrest
      rw [List.append_nil] at h'
      exact ⟨(List.append_nil before).symm, result_unique h h'⟩
    | cons x between =>
      cases hrest
      exact absurd h' (apart h)
  · cases between with
    | nil =>
      cases hrest
      rw [List.append_nil] at h
      exact ⟨List.append_nil before', result_unique h h'⟩
    | cons x between =>
      cases hrest
      exact absurd h (apart h')

/-- In the event between the two parts of a run the operation under the ticket returns the result,
once and for all. -/
structure ReturnsOnce (d : Desk) (t : Ticket) (result : Result) (before : List DeskEvent)
    (e : DeskEvent) (after : List DeskEvent) : Prop where
  shown : .finished t result ∈ ((d.after before).step e).2
  kept : (d.after (before ++ e :: after)).task? t = some (.finished result)
  once {before' after' : List DeskEvent} {e' : DeskEvent} {result' : Result}
    (heq : before' ++ e' :: after' = before ++ e :: after)
    (shown : .finished t result' ∈ ((d.after before').step e').2) :
    before' = before ∧ result' = result

theorem returnsOnce_of_shown {before : List DeskEvent}
    (h : .finished t result ∈ ((d.after before).step e).2) (after : List DeskEvent) :
  d.ReturnsOnce t result before e after
  where
  shown := h
  kept := by
    rw [after_append, after_cons]
    exact finished_after ((returns_step _ e t result).1 h).2 after
  once heq h' := finished_once h' h heq

end Desk

end OrderDesk
