import OrderDesk.Proofs.Desk.Tasks

/-!
# How tasks come to their stages

A task that retries is at a stage because its operation has just begun, because it has called the
venue, because a pause is over, or because an attempt has failed and is not the last one: then it
pauses, for as long as the configuration says, unless that is no time at all.
-/

namespace OrderDesk

/-- The word that an event brings for a random pause. -/
def DeskEvent.word? : DeskEvent → Option UInt64
  | .resume _ word => some word
  | .failed _ _ word => some word
  | _ => none

namespace Desk

variable {d d' : Desk} {e : DeskEvent} {t u : Ticket} {task : Task} {stage : RetryStage}
  {id : ClientId} {request : Payload} {events : List DeskEvent}

/-- In the event the task under a ticket comes to a stage. -/
inductive Enters (d : Desk) (e : DeskEvent) (t : Ticket) : RetryStage → Prop where
  | begins : Enters d e t .start
  | calls (n : Nat) : Enters d e t (.running n)
  /-- A pause is over. -/
  | rests {task : Task} {n : Nat} {delay : Duration} (heq : e = .paused t)
      (htask : d.task? t = some task) (hstage : task.stage? = some (.pausing n delay)) :
      Enters d e t (.ready n)
  /-- A pause begins. -/
  | pauses {n : Nat} {word : UInt64} {delay : Duration} (hword : e.word? = some word)
      (more : n + 1 < d.retry.attempts) (drawn : d.retry.nextDelay? n word = some delay)
      (shown : .paused t delay ∈ (d.step e).2) :
      Enters d e t (.pausing (n + 1) delay)
  /-- There is no pause between two attempts. -/
  | hurries {n : Nat} {word : UInt64} {delay : Duration} (hword : e.word? = some word)
      (more : n + 1 < d.retry.attempts) (drawn : d.retry.nextDelay? n word = some delay)
      (empty : delay.isZero = true) :
      Enters d e t (.ready (n + 1))

/-- A task at a stage is not one that has been set to a task without a stage. -/
theorem task?_of_setTask {task' : Task} (unstaged : task'.stage? = none)
    (htask : (d.setTask u task').task? t = some task) (hstage : task.stage? = some stage) :
  d.task? t = some task
  := by
  rw [task?_setTask] at htask
  split at htask
  · cases htask
    cases unstaged.symm.trans hstage
  · exact htask

theorem Ends.task?_of_stage? {p : Desk × List DeskEffect} (h : d.Ends u p)
    (htask : p.1.task? t = some task) (hstage : task.stage? = some stage) :
  d.task? t = some task
  := by
  obtain ⟨audit, result, rfl⟩ := h
  exact task?_of_setTask (d := { d with audit }) rfl htask hstage

theorem stage?_followCall (htask : (d.followCall u id request).1.task? t = some task)
    (hstage : task.stage? = some stage) :
  d.task? t = some task ∨ stage = .start
  := by
  rw [followCall] at htask
  split at htask
  · exact .inl (task?_of_setTask rfl htask hstage)
  · rw [task?_setTask] at htask
    split at htask
    · cases htask
      cases hstage
      exact .inr rfl
    · exact .inl htask
  · exact .inl ((d.returnSubmitted_ends u id request _).task?_of_stage? htask hstage)
  · exact .inl htask

/-- A task whose retries get on comes to the stage to which they lead. -/
theorem stage?_follow {next : RetryStep Empty} {stage' : RetryStage}
    (before : task.stage? = some stage') {task' : Task}
    (htask : (d.follow u task next).1.task? t = some task') (hstage : task'.stage? = some stage) :
  d.task? t = some task' ∨ t = u ∧ next = .goOn stage
  := by
  cases next with
  | finish result =>
    cases result with
    | ok a => exact a.elim
    | error failure =>
      obtain ⟨id, request, rfl, hends⟩ | ⟨-, hends⟩ | ⟨-, heq⟩ := d.giveUp_cases u before failure
      · exact .inl (hends.task?_of_stage? htask hstage)
      · exact .inl (hends.task?_of_stage? htask hstage)
      · rw [follow, heq] at htask
        exact .inl (task?_of_setTask rfl htask hstage)
  | crash => exact .inl (task?_of_setTask rfl htask hstage)
  | goOn next =>
    rw [follow_goOn, task?_setTask] at htask
    split at htask
    next heq =>
      cases htask
      rw [Task.stage?_atStage before] at hstage
      cases hstage
      exact .inr ⟨heq, rfl⟩
    · exact .inl htask

/-- Retries that go on lead to a stage that is entered. -/
theorem Retries.enters {limiter : RateLimiter} {shown : List DeskEffect} {next : RetryStep Empty}
    (h : d.Retries t task e limiter shown next) (htask : d.task? t = some task)
    (hstep : (d.step e).2 = shown ++ ({ d with limiter }.follow t task next).2)
    (goesOn : next = .goOn stage) :
  d.Enters e t stage
  := by
  have after {n : Nat} {word : UInt64} {failure : Failure} (hword : e.word? = some word)
      (hnext : next = RetryStage.afterFailure d.retry d.isCancelled word n failure) :
      d.Enters e t stage := by
    cases RetryStage.aftermath (hnext.symm.trans goesOn) with
    | retried more drawn empty => exact .hurries hword more drawn empty
    | paused more drawn =>
      apply Enters.pauses hword more drawn
      rw [hstep, goesOn]
      apply List.mem_append_right
      exact List.mem_singleton_self _
  cases h with
  | stopped => cases goesOn
  | refused => exact after rfl rfl
  | failed => exact after rfl rfl
  | rested hstage =>
    cases goesOn
    exact .rests rfl htask hstage
  | interrupted => cases goesOn

/-- A task that is at a stage after an event was there before, or comes to it in the event. -/
theorem enters_of_step (htask : (d.step e).1.task? t = some task)
    (hstage : task.stage? = some stage) :
  d.task? t = some task ∨ d.Enters e t stage
  := by
  have started {d' : Desk} {u : Ticket} {id : ClientId} {request : Payload}
      (h : (d'.followCall u id request).1.task? t = some task) (htasks : d'.tasks = d.tasks) :
      d.task? t = some task ∨ d.Enters e t stage := by
    obtain same | rfl := stage?_followCall h hstage
    · rw [task?, htasks] at same
      exact .inl same
    · exact .inr .begins
  have sets {d' : Desk} {u : Ticket} {task' : Task} (h : (d'.setTask u task').task? t = some task)
      (htasks : d'.tasks = d.tasks) (enters : task'.stage? = some stage → d.Enters e t stage) :
      d.task? t = some task ∨ d.Enters e t stage := by
    rw [task?_setTask] at h
    split at h
    · cases h
      exact .inr (enters hstage)
    · rw [task?, htasks] at h
      exact .inl h
  have ended {d' : Desk} {u : Ticket} {p : Desk × List DeskEffect} (hends : d'.Ends u p)
      (h : p.1.task? t = some task) (htasks : d'.tasks = d.tasks) :
      d.task? t = some task ∨ d.Enters e t stage := by
    have same := hends.task?_of_stage? h hstage
    rw [task?, htasks] at same
    exact .inl same
  have m := d.step_move e
  generalize hstep : d.step e = p at m htask
  cases m with
  | rest => exact .inl htask
  | reject => exact ended (finish_ends _ _ _) htask rfl
  | submit => exact started htask rfl
  | cancelOrder =>
    apply sets htask rfl
    rintro ⟨⟩
    exact .begins
  | reconcile =>
    apply sets htask rfl
    rintro ⟨⟩
    exact .begins
  | @call u task' n call limiter word hbefore hready =>
    apply sets htask rfl
    intro hafter
    rw [Task.stage?_atStage hready] at hafter
    cases hafter
    exact .calls n
  | @retry u task' _ limiter shown next hbefore retries =>
    obtain ⟨stage', hstage'⟩ := retries.exists_stage
    obtain same | ⟨rfl, goesOn⟩ := stage?_follow hstage' htask hstage
    · exact .inl same
    · right
      apply retries.enters hbefore _ goesOn
      rw [hstep]
  | accept => exact ended (settleSubmitted_ends _ _ _ _ _) htask rfl
  | acknowledge => exact ended (acknowledge_ends _ _ _ _ _) htask rfl
  | list => exact .inl (task?_of_setTask rfl htask hstage)
  | compare => exact ended (report_ends _ _ _) htask rfl
  | wake => exact started htask rfl
  | abort =>
    apply sets htask rfl
    rintro ⟨⟩
  | cancel => exact .inl htask
  | advance => exact .inl htask
  | update => exact .inl htask

end Desk

end OrderDesk
