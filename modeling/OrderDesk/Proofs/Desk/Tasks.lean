import OrderDesk.Proofs.Desk.Coupling

/-!
# What becomes of tasks

In an event the task under a ticket stays as it is or takes a turn: its operation begins, gets on
with the calls to the venue, or ends.  `Turn` has one constructor for each of these, and
`turns_step` says that there is nothing else that an event does to a task.
-/

namespace OrderDesk

namespace Task

@[simp]
theorem atStage_atStage (task : Task) (stage stage' : RetryStage) :
  (task.atStage stage).atStage stage' = task.atStage stage'
  := by
  cases task with
  | _ => rfl

theorem atStage_of_stage? {task : Task} {stage : RetryStage} (h : task.stage? = some stage) :
  task.atStage stage = task
  := by
  cases task with
  | submitting => cases h; rfl
  | cancelling => cases h; rfl
  | reconciling => cases h; rfl
  | comparing => cases h
  | waiting => cases h
  | finished => cases h
  | dropped => cases h

theorem stage?_atStage {task : Task} {stage : RetryStage} (h : task.stage? = some stage)
    (stage' : RetryStage) :
  (task.atStage stage').stage? = some stage'
  := by
  cases task with
  | submitting => rfl
  | cancelling => rfl
  | reconciling => rfl
  | comparing => cases h
  | waiting => cases h
  | finished => cases h
  | dropped => cases h

/-- A task that has come to another stage was the same but for the stage. -/
theorem eq_atStage {task task' : Task} {stage stage' : RetryStage}
    (h : task.stage? = some stage) (heq : task' = task.atStage stage') :
  task = task'.atStage stage
  := by
  rw [heq, atStage_atStage, atStage_of_stage? h]

theorem ne_finished_of_stage? {task : Task} {stage : RetryStage} (h : task.stage? = some stage)
    (result : Result) :
  task ≠ .finished result
  := by
  rintro rfl
  cases h

end Task

namespace Desk

variable {d d' : Desk} {e : DeskEvent} {t u : Ticket} {id : ClientId} {request : Payload}

/-- No operation has returned under the ticket. -/
def Unfinished (d : Desk) (t : Ticket) : Prop := ∀ result, d.task? t ≠ some (.finished result)

/-- In the event the task under a ticket turns into another. -/
inductive Turn (d : Desk) : DeskEvent → Ticket → Task → Prop where
  /-- An operation returns. -/
  | ends (e : DeskEvent) {t : Ticket} (result : Result) (unfinished : d.Unfinished t) :
      Turn d e t (.finished result)
  /-- An operation is dropped. -/
  | leaves {t : Ticket} (unfinished : d.Unfinished t) : Turn d (.abort t) t .dropped
  /-- An operation crashes, since no pause can be drawn for it. -/
  | crashes (e : DeskEvent) {t : Ticket} {task : Task} {stage : RetryStage}
      (htask : d.task? t = some task) (stage : task.stage? = some stage) :
      Turn d e t .dropped
  /-- A submission finds that another one resolves its id. -/
  | waits (e : DeskEvent) {t : Ticket} {id : ClientId} {request : Payload}
      (asking : d.task? t = none ∨ d.task? t = some (.waiting id request)) :
      Turn d e t (.waiting id request)
  /-- A submission is the one that resolves its id. -/
  | resolves (e : DeskEvent) {t : Ticket} {id : ClientId} {request : Payload}
      (asking : d.task? t = none ∨ d.task? t = some (.waiting id request)) :
      Turn d e t (.submitting id request .start)
  /-- A cancel of a cached order begins. -/
  | cancels {t : Ticket} {id : ClientId} {response : Payload} {target : CancelTarget}
      (fresh : d.task? t = none) (cached : d.cache.get? id = some response)
      (named : d.venue.cancelTarget id response = .ok target) :
      Turn d (.begin t (.cancel id)) t (.cancelling id target .start)
  | reconciles {t : Ticket} (fresh : d.task? t = none) :
      Turn d (.begin t .reconcile) t (.reconciling .start)
  /-- A reconciliation has a listing, or goes on with an empty one. -/
  | compares (e : DeskEvent) {t : Ticket} {stage : RetryStage} {orders : List Payload}
      (htask : d.task? t = some (.reconciling stage))
      (listed : orders = [] ∨ e = .listed t orders ∧ ∃ n, stage = .running n) :
      Turn d e t (.comparing orders)
  /-- An operation calls the venue. -/
  | calls {t : Ticket} {task : Task} {n : Nat} {call : VenueCall} (word : UInt64)
      (htask : d.task? t = some task) (stage : task.stage? = some (.ready n))
      (made : task.venueCall? = some call)
      (shown : .called t call ∈ (d.step (.resume t word)).2) :
      Turn d (.resume t word) t (task.atStage (.running n))
  /-- The retries of an operation go on without a call. -/
  | goesOn (e : DeskEvent) {t : Ticket} {task : Task} {stage next : RetryStage}
      (htask : d.task? t = some task) (stage : task.stage? = some stage)
      (silent : ∀ n, next ≠ .running n) :
      Turn d e t (task.atStage next)

/-- After the event every task is as it was or has taken a turn. -/
def Turns (d : Desk) (e : DeskEvent) (d' : Desk) : Prop :=
  ∀ t, d'.task? t = d.task? t ∨ ∃ task, d'.task? t = some task ∧ d.Turn e t task

/-! ### Turns of one task -/

theorem unfinished_of_fresh (h : d.task? t = none) :
  d.Unfinished t
  := by
  intro result htask
  cases h.symm.trans htask

theorem unfinished_of_task? {task : Task} (h : d.task? t = some task)
    (hne : ∀ result, task ≠ .finished result) :
  d.Unfinished t
  := by
  intro result htask
  rw [h] at htask
  cases htask
  exact hne result rfl

theorem unfinished_of_asking
    (h : d.task? t = none ∨ d.task? t = some (.waiting id request)) :
  d.Unfinished t
  := by
  obtain h | h := h
  · exact unfinished_of_fresh h
  · apply unfinished_of_task? h nofun

theorem turns_of_tasks (h : d'.tasks = d.tasks) :
  d.Turns e d'
  := by
  intro t
  left
  rw [task?, h]
  rfl

/-- A task takes its turn, and the others stay as they are. -/
theorem Turn.setTask {task : Task} (turn : d.Turn e u task) (htasks : d'.tasks = d.tasks) :
  d.Turns e (d'.setTask u task)
  := by
  intro t
  rw [task?_setTask]
  split
  next heq => exact .inr ⟨task, rfl, heq ▸ turn⟩
  next hne => apply turns_of_tasks htasks t

theorem Ends.turns {p : Desk × List DeskEffect} (h : d'.Ends u p) (htasks : d'.tasks = d.tasks)
    (unfinished : d.Unfinished u) :
  d.Turns e p.1
  := by
  obtain ⟨audit, result, rfl⟩ := h
  exact (Turn.ends e result unfinished).setTask htasks

theorem turns_followCall (htasks : d'.tasks = d.tasks)
    (asking : d.task? u = none ∨ d.task? u = some (.waiting id request)) :
  d.Turns e (d'.followCall u id request).1
  := by
  rw [followCall]
  split
  · exact (Turn.waits e asking).setTask htasks
  · exact (Turn.resolves e asking).setTask htasks
  next outcome hcall =>
    apply (d'.returnSubmitted_ends u id request outcome).turns htasks (unfinished_of_asking asking)
  · exact turns_of_tasks htasks

theorem turns_follow {task : Task} {stage : RetryStage} {next : RetryStep Empty}
    (htasks : d'.tasks = d.tasks) (htask : d.task? u = some task)
    (hstage : task.stage? = some stage) (silent : ∀ n, next ≠ .goOn (.running n)) :
  d.Turns e (d'.follow u task next).1
  := by
  have unfinished : d.Unfinished u := unfinished_of_task? htask (Task.ne_finished_of_stage? hstage)
  cases next with
  | finish result =>
    cases result with
    | ok a => exact a.elim
    | error failure =>
      obtain ⟨id, request, rfl, hends⟩ | ⟨-, hends⟩ | ⟨rfl, heq⟩ :=
        d'.giveUp_cases u hstage failure
      · apply hends.turns htasks unfinished
      · apply hends.turns htasks unfinished
      · rw [follow, heq]
        exact (Turn.compares e htask (.inl rfl)).setTask htasks
  | crash => exact (Turn.crashes e htask hstage).setTask htasks
  | goOn next =>
    rw [follow_goOn]
    apply (Turn.goesOn e htask hstage _).setTask htasks
    rintro n rfl
    exact silent n rfl

/-- A failed attempt is not followed by a call at once. -/
theorem afterFailure_ne_running (config : RetryConfig) (cancelled : Bool) (word : UInt64)
    (attempt : Nat) (failure : Failure) (n : Nat) :
  (RetryStage.afterFailure config cancelled word attempt failure : RetryStep Empty)
    ≠ .goOn (.running n)
  := by
  intro h
  cases RetryStage.aftermath h

theorem Retries.next_ne_running {task : Task} {limiter : RateLimiter} {shown : List DeskEffect}
    {next : RetryStep Empty} (h : d.Retries t task e limiter shown next) (n : Nat) :
  next ≠ .goOn (.running n)
  := by
  cases h with
  | stopped => exact nofun
  | refused => apply afterFailure_ne_running
  | failed => apply afterFailure_ne_running
  | rested => exact nofun
  | interrupted => exact nofun

/-- In an event every task stays as it is or takes a turn. -/
theorem turns_step (d : Desk) (e : DeskEvent) :
  d.Turns e (d.step e).1
  := by
  have m := d.step_move e
  generalize hstep : d.step e = p at m
  cases m with
  | rest => exact turns_of_tasks rfl
  | reject fresh => exact (finish_ends _ _ _).turns rfl (unfinished_of_fresh fresh)
  | submit fresh => exact turns_followCall rfl (.inl fresh)
  | cancelOrder fresh unasked cached named =>
    exact (Turn.cancels fresh cached named).setTask rfl
  | reconcile fresh => exact (Turn.reconciles fresh).setTask rfl
  | @call t task n call limiter word htask stage made =>
    have shown : .called t call ∈ (d.step (.resume t word)).2 := by simp [hstep]
    exact (Turn.calls word htask stage made shown).setTask rfl
  | @retry t task _ limiter shown next htask retries =>
    obtain ⟨stage, hstage⟩ := retries.exists_stage
    exact turns_follow rfl htask hstage retries.next_ne_running
  | @accept t id request n response htask =>
    exact (d.settleSubmitted_ends t id request _).turns rfl (unfinished_of_task? htask nofun)
  | @acknowledge t id target n raw htask =>
    exact (d.acknowledge_ends t id target raw).turns rfl (unfinished_of_task? htask nofun)
  | @list t n orders htask =>
    exact (Turn.compares _ htask (.inr ⟨rfl, n, rfl⟩)).setTask rfl
  | @compare t orders htask =>
    exact (d.report_ends t orders).turns rfl (unfinished_of_task? htask nofun)
  | wake htask => exact turns_followCall rfl (.inr htask)
  | abort htask unfinished => exact (Turn.leaves (unfinished_of_task? htask unfinished)).setTask rfl
  | cancel => exact turns_of_tasks rfl
  | advance => exact turns_of_tasks rfl
  | update => exact turns_of_tasks rfl

/-! ### Operations that begin -/

/-- All tasks but the one under the ticket are as they were. -/
def LeavesOthers (d : Desk) (u : Ticket) (d' : Desk) : Prop :=
  ∀ t, t ≠ u → d'.task? t = d.task? t

theorem leavesOthers_setTask (htasks : d'.tasks = d.tasks) (task : Task) :
  d.LeavesOthers u (d'.setTask u task)
  := by
  intro t hne
  rw [task?_setTask, if_neg hne, task?, htasks, task?]

theorem Ends.leavesOthers {p : Desk × List DeskEffect} (h : d'.Ends u p)
    (htasks : d'.tasks = d.tasks) :
  d.LeavesOthers u p.1
  := by
  obtain ⟨audit, result, rfl⟩ := h
  exact leavesOthers_setTask htasks _

theorem leavesOthers_followCall (htasks : d'.tasks = d.tasks) :
  d.LeavesOthers u (d'.followCall u id request).1
  := by
  rw [followCall]
  split
  · exact leavesOthers_setTask htasks _
  · exact leavesOthers_setTask htasks _
  next outcome hcall => exact (d'.returnSubmitted_ends u id request outcome).leavesOthers htasks
  · intro t hne
    rw [task?, htasks, task?]

theorem leavesOthers_follow {task : Task} {stage : RetryStage} (htasks : d'.tasks = d.tasks)
    (hstage : task.stage? = some stage) (next : RetryStep Empty) :
  d.LeavesOthers u (d'.follow u task next).1
  := by
  cases next with
  | finish result =>
    cases result with
    | ok a => exact a.elim
    | error failure =>
      obtain ⟨id, request, rfl, hends⟩ | ⟨-, hends⟩ | ⟨-, heq⟩ :=
        d'.giveUp_cases u hstage failure
      · exact hends.leavesOthers htasks
      · exact hends.leavesOthers htasks
      · rw [follow, heq]
        exact leavesOthers_setTask htasks _
  | crash => exact leavesOthers_setTask htasks _
  | goOn next =>
    rw [follow_goOn]
    exact leavesOthers_setTask htasks _

/-- A ticket comes into use only when an operation begins under it. -/
theorem fresh_step (fresh : d.task? t = none) (he : ∀ operation, e ≠ .begin t operation) :
  (d.step e).1.task? t = none
  := by
  have others {u : Ticket} {d' : Desk} (h : d.LeavesOthers u d') (hne : t ≠ u) :
      d'.task? t = none := (h t hne).trans fresh
  have used {u : Ticket} {task : Task} (htask : d.task? u = some task) : t ≠ u := by
    rintro rfl
    cases fresh.symm.trans htask
  have begun {u : Ticket} {operation : Operation} (heq : e = .begin u operation) : t ≠ u := by
    rintro rfl
    exact he operation heq
  have m := d.step_move e
  generalize d.step e = p at m
  cases m with
  | rest => exact fresh
  | reject => exact others (leavesOthers_setTask rfl _) (begun rfl)
  | submit => exact others (leavesOthers_followCall rfl) (begun rfl)
  | cancelOrder => exact others (leavesOthers_setTask rfl _) (begun rfl)
  | reconcile => exact others (leavesOthers_setTask rfl _) (begun rfl)
  | call word htask => exact others (leavesOthers_setTask rfl _) (used htask)
  | @retry u task _ limiter shown next htask retries =>
    obtain ⟨stage, hstage⟩ := retries.exists_stage
    exact others (leavesOthers_follow rfl hstage next) (used htask)
  | accept response htask =>
    exact others ((settleSubmitted_ends _ _ _ _ _).leavesOthers rfl) (used htask)
  | acknowledge raw htask => exact others (leavesOthers_setTask rfl _) (used htask)
  | list orders htask => exact others (leavesOthers_setTask rfl _) (used htask)
  | compare htask => exact others (leavesOthers_setTask rfl _) (used htask)
  | wake htask => exact others (leavesOthers_followCall rfl) (used htask)
  | abort htask => exact others (leavesOthers_setTask rfl _) (used htask)
  | cancel => exact fresh
  | advance => exact fresh
  | update => exact fresh

/-- A ticket that is in use stays so. -/
theorem used_step (h : d.task? t ≠ none) (e : DeskEvent) :
  (d.step e).1.task? t ≠ none
  := by
  obtain hsame | ⟨task, htask, -⟩ := d.turns_step e t
  · rw [hsame]
    exact h
  · rw [htask]
    exact nofun

/-! ### Operations that have returned -/

theorem Turn.unfinished {task : Task} (turn : d.Turn e t task) :
  d.Unfinished t
  := by
  cases turn with
  | ends e result unfinished => exact unfinished
  | leaves unfinished => exact unfinished
  | crashes e htask stage => exact unfinished_of_task? htask (Task.ne_finished_of_stage? stage)
  | waits e asking => exact unfinished_of_asking asking
  | resolves e asking => exact unfinished_of_asking asking
  | cancels fresh => exact unfinished_of_fresh fresh
  | reconciles fresh => exact unfinished_of_fresh fresh
  | compares e htask => exact unfinished_of_task? htask nofun
  | calls word htask stage =>
    exact unfinished_of_task? htask (Task.ne_finished_of_stage? stage)
  | goesOn e htask stage =>
    exact unfinished_of_task? htask (Task.ne_finished_of_stage? stage)

/-- An operation that has returned keeps its result. -/
theorem finished_step {result : Result} (h : d.task? t = some (.finished result)) (e : DeskEvent) :
  (d.step e).1.task? t = some (.finished result)
  := by
  obtain hsame | ⟨task, -, turn⟩ := d.turns_step e t
  · rw [hsame]
    exact h
  · exact absurd h (turn.unfinished result)

/-! ### Operations that call the venue -/

/-- A cancel with a target had it before the event, or begins in it with the cached response. -/
theorem cancelling_of_step {target : CancelTarget} {stage : RetryStage}
    (h : (d.step e).1.task? t = some (.cancelling id target stage)) :
  (∃ stage', d.task? t = some (.cancelling id target stage'))
  ∨ ∃ response, d.cache.get? id = some response ∧ d.venue.cancelTarget id response = .ok target
  := by
  obtain hsame | ⟨task, hafter, turn⟩ := d.turns_step e t
  · rw [hsame] at h
    exact .inl ⟨stage, h⟩
  · rw [h] at hafter
    obtain ⟨rfl⟩ : Task.cancelling id target stage = task := Option.some.inj hafter
    generalize heq : Task.cancelling id target stage = task at turn
    cases turn with
    | cancels fresh cached named =>
      cases heq
      exact .inr ⟨_, cached, named⟩
    | calls word htask stage =>
      rw [Task.eq_atStage stage heq] at htask
      exact .inl ⟨_, htask⟩
    | goesOn e htask stage =>
      rw [Task.eq_atStage stage heq] at htask
      exact .inl ⟨_, htask⟩
    | ends => cases heq
    | leaves => cases heq
    | crashes => cases heq
    | compares => cases heq
    | waits => cases heq
    | resolves => cases heq
    | reconciles => cases heq

/-- The end of a pause makes the task ready. -/
theorem task?_step_paused {task : Task} {n : Nat} {delay : Duration}
    (htask : d.task? t = some task) (hstage : task.stage? = some (.pausing n delay)) :
  (d.step (.paused t)).1.task? t = some (task.atStage (.ready n))
  := by
  rw [step, htask]
  simp only [hstage, task?_setTask, if_true]

end Desk

end OrderDesk
