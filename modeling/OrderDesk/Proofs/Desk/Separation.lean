import OrderDesk.Proofs.Desk.Effects

/-!
# Tasks meet in what they share only

An event is about the task under its ticket, if it is about any, and looks at no other.  So at two
desks that are the same but for the tasks under some tickets, events on other tickets show the same,
and leave the desks the same but for those tasks.  The number of ids generated matters only to an
event that generates one.
-/

namespace OrderDesk

/-- The ticket of the task that an event is about. -/
def DeskEvent.ticket? : DeskEvent → Option Ticket
  | .begin ticket _ => some ticket
  | .resume ticket _ => some ticket
  | .accepted ticket _ => some ticket
  | .acknowledged ticket _ => some ticket
  | .listed ticket _ => some ticket
  | .compare ticket => some ticket
  | .failed ticket _ _ => some ticket
  | .paused ticket => some ticket
  | .interrupted ticket => some ticket
  | .wake ticket => some ticket
  | .abort ticket => some ticket
  | .cancel => none
  | .advance _ => none
  | .update _ _ => none

/-- Whether an event is about a task under one of the tickets of the set. -/
def DeskEvent.isAbout (T : Ticket → Bool) (e : DeskEvent) : Bool := e.ticket?.any T

/-- Whether an event begins a submission that has an id generated for it. -/
def DeskEvent.generatesId : DeskEvent → Bool
  | .begin _ (.submit order none) => order.isComplete
  | _ => false

/-- The ticket of the task that an effect is of. -/
def DeskEffect.ticket : DeskEffect → Ticket
  | .admitted ticket _ => ticket
  | .refused ticket _ => ticket
  | .called ticket _ => ticket
  | .paused ticket _ => ticket
  | .finished ticket _ => ticket

namespace Desk

variable {T : Ticket → Bool} {counted : Bool} {d d' : Desk} {p p' : Desk × List DeskEffect}
  {e : DeskEvent} {t : Ticket} {id : ClientId} {request : Payload} {events : List DeskEvent}

/-! ### Whose effects are shown -/

/-- Nothing is shown of tasks but the one under the ticket. -/
def OwnEffects (t : Ticket) (effects : List DeskEffect) : Prop := ∀ x ∈ effects, x.ticket = t

theorem ownEffects_nil (t : Ticket) :
  OwnEffects t []
  := by
  rintro x ⟨⟩

theorem ownEffects_singleton {x : DeskEffect} (h : x.ticket = t) :
  OwnEffects t [x]
  := by
  intro y hy
  rw [List.mem_singleton.1 hy]
  exact h

theorem Ends.ownEffects (h : d.Ends t p) :
  OwnEffects t p.2
  := by
  obtain ⟨audit, result, rfl⟩ := h
  exact ownEffects_singleton rfl

theorem ownEffects_followCall (d : Desk) (t : Ticket) (id : ClientId) (request : Payload) :
  OwnEffects t (d.followCall t id request).2
  := by
  rw [followCall]
  split
  · exact ownEffects_nil t
  · exact ownEffects_nil t
  next outcome hcall => exact (d.returnSubmitted_ends t id request outcome).ownEffects
  · exact ownEffects_nil t

theorem ownEffects_follow {task : Task} {stage : RetryStage} (hstage : task.stage? = some stage)
    (next : RetryStep Empty) :
  OwnEffects t (d.follow t task next).2
  := by
  cases next with
  | finish result =>
    cases result with
    | ok a => exact a.elim
    | error failure =>
      obtain ⟨id, request, rfl, hends⟩ | ⟨-, hends⟩ | ⟨-, heq⟩ := d.giveUp_cases t hstage failure
      · exact hends.ownEffects
      · exact hends.ownEffects
      · rw [follow, heq]
        exact ownEffects_nil t
  | crash => exact ownEffects_nil t
  | goOn stage' =>
    cases stage' with
    | ready => exact ownEffects_nil t
    | running => exact ownEffects_nil t
    | pausing => exact ownEffects_singleton rfl

theorem Retries.ownEffects {task : Task} {limiter : RateLimiter} {shown : List DeskEffect}
    {next : RetryStep Empty} (h : d.Retries t task e limiter shown next) :
  OwnEffects t shown ∧ e.ticket? = some t
  := by
  cases h with
  | refused => exact ⟨ownEffects_singleton rfl, rfl⟩
  | _ => exact ⟨ownEffects_nil t, rfl⟩

/-- What an event shows is of the task that it is about. -/
theorem ticket?_of_shown {x : DeskEffect} (h : x ∈ (d.step e).2) :
  e.ticket? = some x.ticket
  := by
  have m := d.step_move e
  generalize d.step e = p at m h
  cases m with
  | rest => cases h
  | reject => rw [(finish_ends _ _ _).ownEffects x h]; rfl
  | submit => rw [ownEffects_followCall _ _ _ _ x h]; rfl
  | cancelOrder => cases h
  | reconcile => cases h
  | call =>
    rw [List.mem_cons, List.mem_singleton] at h
    obtain rfl | rfl := h
    · rfl
    · rfl
  | retry htask retries =>
    obtain ⟨stage, hstage⟩ := retries.exists_stage
    obtain ⟨hshown, hticket⟩ := retries.ownEffects
    obtain h | h := List.mem_append.1 h
    · rw [hshown x h, hticket]
    · rw [ownEffects_follow hstage _ x h, hticket]
  | accept => rw [(settleSubmitted_ends _ _ _ _ _).ownEffects x h]; rfl
  | acknowledge => rw [(acknowledge_ends _ _ _ _ _).ownEffects x h]; rfl
  | list => cases h
  | compare => rw [(report_ends _ _ _).ownEffects x h]; rfl
  | wake => rw [ownEffects_followCall _ _ _ _ x h]; rfl
  | abort => cases h
  | cancel => cases h
  | advance => cases h
  | update => cases h

/-- An event leaves the tasks that it is not about as they are. -/
theorem task?_step_of_ticket_ne (h : e.ticket? ≠ some t) :
  (d.step e).1.task? t = d.task? t
  := by
  have others {u : Ticket} {d' : Desk} (leaves : d.LeavesOthers u d')
      (about : e.ticket? = some u) : d'.task? t = d.task? t := by
    apply leaves
    rintro rfl
    exact h about
  have m := d.step_move e
  generalize d.step e = p at m
  cases m with
  | rest => rfl
  | reject => exact others (leavesOthers_setTask rfl _) rfl
  | submit => exact others (leavesOthers_followCall rfl) rfl
  | cancelOrder => exact others (leavesOthers_setTask rfl _) rfl
  | reconcile => exact others (leavesOthers_setTask rfl _) rfl
  | call => exact others (leavesOthers_setTask rfl _) rfl
  | @retry u task _ limiter shown next htask retries =>
    obtain ⟨stage, hstage⟩ := retries.exists_stage
    exact others (leavesOthers_follow rfl hstage next) retries.ownEffects.2
  | accept => exact others ((settleSubmitted_ends _ _ _ _ _).leavesOthers rfl) rfl
  | acknowledge => exact others (leavesOthers_setTask rfl _) rfl
  | list => exact others (leavesOthers_setTask rfl _) rfl
  | compare => exact others (leavesOthers_setTask rfl _) rfl
  | wake => exact others (leavesOthers_followCall rfl) rfl
  | abort => exact others (leavesOthers_setTask rfl _) rfl
  | cancel => rfl
  | advance => rfl
  | update => rfl

/-! ### Tasks that are left alone -/

/-- A task that neither calls the venue nor waits for another one stays as it is until it compares
or is dropped. -/
theorem task?_step_of_idle {task : Task} (htask : d.task? t = some task)
    (stage : task.stage? = none) (unasking : ∀ id request, task ≠ .waiting id request)
    (uncompared : ∀ orders, task = .comparing orders → e ≠ .compare t) (kept : e ≠ .abort t) :
  (d.step e).1.task? t = some task
  := by
  by_cases about : e.ticket? = some t
  · have rests : d.step e = (d, []) := by
      cases e with
      | cancel => cases about
      | advance => cases about
      | update => cases about
      | abort =>
        cases about
        exact absurd rfl kept
      | begin =>
        cases about
        rw [step, begin.eq_def, htask]
      | _ =>
        cases about
        rw [step, htask]
        cases task with
        | submitting => cases stage
        | cancelling => cases stage
        | reconciling => cases stage
        | waiting id request => exact absurd rfl (unasking id request)
        | comparing orders => first | rfl | exact absurd rfl (uncompared orders rfl)
        | finished => rfl
        | dropped => rfl
    rw [rests, htask]
  · rw [task?_step_of_ticket_ne about, htask]

/-- A reconciliation keeps the orders that it has been listed until it compares them. -/
theorem comparing_step {orders : List Payload} (htask : d.task? t = some (.comparing orders))
    (kept : e ≠ .abort t) (uncompared : e ≠ .compare t) :
  (d.step e).1.task? t = some (.comparing orders)
  := task?_step_of_idle htask rfl nofun (fun _ _ => uncompared) kept

theorem comparing_after {orders : List Payload} (htask : d.task? t = some (.comparing orders))
    (kept : .abort t ∉ events) (uncompared : .compare t ∉ events) :
  (d.after events).task? t = some (.comparing orders)
  := by
  refine after_induction (motive := fun d => d.task? t = some (.comparing orders)) ?_ htask
  intro e hmem d htask
  apply comparing_step htask
  · rintro rfl
    exact kept hmem
  · rintro rfl
    exact uncompared hmem

/-- An operation that has been dropped does not come back. -/
theorem dropped_step (htask : d.task? t = some .dropped) (e : DeskEvent) :
  (d.step e).1.task? t = some .dropped
  := by
  by_cases left : e = .abort t
  · rw [left, step, abort, htask]
    exact (task?_setTask _ _ _ _).trans (if_pos rfl)
  · exact task?_step_of_idle htask rfl (by simp) (by simp) left

theorem dropped_after (htask : d.task? t = some .dropped) (events : List DeskEvent) :
  (d.after events).task? t = some .dropped
  := after_induction (motive := fun d => d.task? t = some .dropped)
    (fun e _ _ htask => dropped_step htask e) htask

/-! ### Desks that are the same but for some tasks -/

/-- The desks are the same but for the tasks under the tickets of the set, and, unless ids are
counted, for the number of ids generated. -/
def SameBut (T : Ticket → Bool) (counted : Bool) (d d' : Desk) : Prop :=
  ∃ tasks sequence, d' = { d with tasks, sequence }
    ∧ (∀ t, T t = false → tasks.get? t = d.tasks.get? t)
    ∧ (counted = true → sequence = d.sequence)

/-- The desks are the same but for some tasks, and the same is shown. -/
def Tally (T : Ticket → Bool) (counted : Bool) (p p' : Desk × List DeskEffect) : Prop :=
  SameBut T counted p.1 p'.1 ∧ p'.2 = p.2

theorem SameBut.refl (T : Ticket → Bool) (counted : Bool) (d : Desk) :
  SameBut T counted d d
  := ⟨d.tasks, d.sequence, rfl, fun _ _ => rfl, fun _ => rfl⟩

theorem SameBut.exists_eq (h : SameBut T counted d d') :
  ∃ tasks sequence, d' = { d with tasks, sequence }
  := by
  obtain ⟨tasks, sequence, heq, -⟩ := h
  exact ⟨tasks, sequence, heq⟩

theorem SameBut.task?_eq (h : SameBut T counted d d') (ht : T t = false) :
  d'.task? t = d.task? t
  := by
  obtain ⟨tasks, sequence, rfl, htasks, -⟩ := h
  exact htasks t ht

/-- A task under a ticket of the set may be set to another one. -/
theorem SameBut.setTask_right (h : SameBut T counted d d') (ht : T t = true) (task : Task) :
  SameBut T counted d (d'.setTask t task)
  := by
  obtain ⟨tasks, sequence, rfl, htasks, hsequence⟩ := h
  refine ⟨tasks.insert t task, sequence, rfl, ?_, hsequence⟩
  intro u hu
  rw [Table.get?_insert, if_neg, htasks u hu]
  rintro rfl
  cases ht.symm.trans hu

theorem SameBut.setTask (h : SameBut T counted d d') (t : Ticket) (task : Task) :
  SameBut T counted (d.setTask t task) (d'.setTask t task)
  := by
  obtain ⟨tasks, sequence, rfl, htasks, hsequence⟩ := h
  refine ⟨tasks.insert t task, sequence, rfl, ?_, hsequence⟩
  intro u hu
  rw [Table.get?_insert, Desk.setTask, Table.get?_insert, htasks u hu]

/-- All that tasks share may change alike. -/
theorem SameBut.withParts (h : SameBut T counted d d') {limiter : RateLimiter}
    {shared : SharedCache} {audit : AuditLog} {token : Option Bool} {clock : Nat} :
  SameBut T counted { d with limiter, shared, audit, token, clock }
    { d' with limiter, shared, audit, token, clock }
  := by
  obtain ⟨tasks, sequence, rfl, htasks, hsequence⟩ := h
  exact ⟨tasks, sequence, rfl, htasks, hsequence⟩

theorem SameBut.withSequence (h : SameBut T counted d d') {sequence sequence' : UInt64}
    (hsequence : counted = true → sequence' = sequence) :
  SameBut T counted { d with sequence } { d' with sequence := sequence' }
  := by
  obtain ⟨tasks, _, rfl, htasks, -⟩ := h
  exact ⟨tasks, sequence', rfl, htasks, hsequence⟩

/-- Ids need not be counted, and need not be as many where they are not. -/
theorem SameBut.withSequence_right {counted' : Bool} (h : SameBut T counted d d')
    {sequence : UInt64} (hcounted : counted' = true → counted = true ∧ sequence = d'.sequence) :
  SameBut T counted' d { d' with sequence }
  := by
  obtain ⟨tasks, sequence', rfl, htasks, hsequence⟩ := h
  refine ⟨tasks, sequence, rfl, htasks, ?_⟩
  intro counts
  obtain ⟨hcounts, rfl⟩ := hcounted counts
  exact hsequence hcounts

theorem SameBut.finish (h : SameBut T counted d d') (t : Ticket) (result : Result) :
  Tally T counted (d.finish t result) (d'.finish t result)
  := ⟨h.setTask t _, rfl⟩

theorem SameBut.returnSubmitted (h : SameBut T counted d d') (t : Ticket) (id : ClientId)
    (request : Payload) (outcome : Outcome) :
  Tally T counted (d.returnSubmitted t id request outcome) (d'.returnSubmitted t id request outcome)
  := by
  obtain ⟨tasks, sequence, rfl⟩ := h.exists_eq
  cases outcome with
  | ok response => exact h.withParts.finish t _
  | error failure => exact h.finish t _

theorem SameBut.settleSubmitted (h : SameBut T counted d d') (t : Ticket) (id : ClientId)
    (request : Payload) (outcome : Outcome) :
  Tally T counted (d.settleSubmitted t id request outcome) (d'.settleSubmitted t id request outcome)
  := by
  obtain ⟨tasks, sequence, rfl⟩ := h.exists_eq
  exact h.withParts.returnSubmitted t id request _

theorem SameBut.followCall (h : SameBut T counted d d') (t : Ticket) (id : ClientId)
    (request : Payload) :
  Tally T counted (d.followCall t id request) (d'.followCall t id request)
  := by
  have hshared : d'.shared = d.shared := by
    obtain ⟨tasks, sequence, rfl⟩ := h.exists_eq
    rfl
  rw [Desk.followCall, Desk.followCall, hshared]
  split
  · exact ⟨h.setTask t _, rfl⟩
  · exact ⟨h.setTask t _, rfl⟩
  · exact h.returnSubmitted t id request _
  · exact ⟨h, rfl⟩

theorem SameBut.report (h : SameBut T counted d d') (t : Ticket) (orders : List Payload) :
  Tally T counted (d.report t orders) (d'.report t orders)
  := by
  obtain ⟨tasks, sequence, rfl⟩ := h.exists_eq
  exact h.withParts.finish t _

theorem SameBut.acknowledge (h : SameBut T counted d d') (t : Ticket) (id : ClientId)
    (target : CancelTarget) (raw : Option Payload) :
  Tally T counted (d.acknowledge t id target raw) (d'.acknowledge t id target raw)
  := by
  obtain ⟨tasks, sequence, rfl⟩ := h.exists_eq
  exact h.withParts.finish t _

theorem SameBut.giveUp (h : SameBut T counted d d') (t : Ticket) (task : Task) (failure : Failure) :
  Tally T counted (d.giveUp t task failure) (d'.giveUp t task failure)
  := by
  cases task with
  | submitting id request => exact h.settleSubmitted t id request _
  | cancelling => exact h.finish t _
  | reconciling =>
    rw [Desk.giveUp, Desk.giveUp]
    split
    · exact h.finish t _
    · exact ⟨h.setTask t _, rfl⟩
  | waiting => exact ⟨h, rfl⟩
  | comparing => exact ⟨h, rfl⟩
  | finished => exact ⟨h, rfl⟩
  | dropped => exact ⟨h, rfl⟩

theorem SameBut.drop (h : SameBut T counted d d') (t : Ticket) :
  Tally T counted (d.drop t) (d'.drop t)
  := by
  obtain ⟨tasks, sequence, rfl⟩ := h.exists_eq
  exact ⟨h.withParts.setTask t _, rfl⟩

theorem SameBut.follow (h : SameBut T counted d d') (t : Ticket) (task : Task)
    (next : RetryStep Empty) :
  Tally T counted (d.follow t task next) (d'.follow t task next)
  := by
  cases next with
  | finish result =>
    cases result with
    | ok a => exact a.elim
    | error failure => exact h.giveUp t task failure
  | crash => exact h.drop t
  | goOn stage =>
    cases stage with
    | ready => exact ⟨h.setTask t _, rfl⟩
    | running => exact ⟨h.setTask t _, rfl⟩
    | pausing => exact ⟨h.setTask t _, rfl⟩

theorem SameBut.attempt (h : SameBut T counted d d') (t : Ticket) (task : Task) (call : VenueCall)
    (n : Nat) (word : UInt64) :
  Tally T counted (d.attempt t task call n word) (d'.attempt t task call n word)
  := by
  obtain ⟨tasks, sequence, rfl⟩ := h.exists_eq
  have hcancelled : { d with tasks, sequence }.isCancelled = d.isCancelled := rfl
  rw [Desk.attempt, Desk.attempt, hcancelled]
  split
  · have asked : SameBut T counted { d with limiter := (d.limiter.acquire d.clock).1 }
        { d with tasks, sequence, limiter := (d.limiter.acquire d.clock).1 } := h.withParts
    dsimp only
    split
    · exact ⟨asked.setTask t _, rfl⟩
    · obtain ⟨hsame, hshown⟩ := asked.follow t task (RetryStage.afterFailure d.retry d.isCancelled
        word _ { d with limiter := (d.limiter.acquire d.clock).1 }.refusal)
      exact ⟨hsame, congrArg (List.cons _) hshown⟩
  · exact h.follow t task _

/-- A submission is given the same id, unless it has one generated and ids are not counted. -/
theorem SameBut.resolveId (h : SameBut T counted d d') {clientId : Option ClientId}
    (hid : counted = true ∨ clientId ≠ none) :
  (d'.resolveId clientId).2 = (d.resolveId clientId).2
    ∧ (counted = true → (d'.resolveId clientId).1.sequence = (d.resolveId clientId).1.sequence)
  := by
  obtain ⟨tasks, sequence, rfl, -, hsequence⟩ := h
  cases clientId with
  | some id => exact ⟨rfl, hsequence⟩
  | none =>
    obtain counts | supplied := hid
    · obtain rfl := hsequence counts
      exact ⟨rfl, fun _ => rfl⟩
    · exact absurd rfl supplied

theorem SameBut.submit (h : SameBut T counted d d') (t : Ticket) {order : Order}
    {clientId : Option ClientId}
    (hid : counted = true ∨ (DeskEvent.begin t (.submit order clientId)).generatesId = false) :
  Tally T counted (d.submit t order clientId) (d'.submit t order clientId)
  := by
  rw [Desk.submit, Desk.submit]
  split
  next complete =>
    have named : counted = true ∨ clientId ≠ none := by
      refine hid.imp_right ?_
      rintro generates rfl
      cases complete.symm.trans generates
    obtain ⟨hnamed, hsequence⟩ := h.resolveId named
    rw [resolveId_eq d, resolveId_eq d', hnamed]
    have counts := h.withSequence hsequence
    obtain ⟨tasks, sequence, rfl⟩ := h.exists_eq
    dsimp only
    split
    · exact counts.finish t _
    · exact counts.withParts.followCall t _ _
  next => exact h.finish t _

theorem SameBut.cancelOrder (h : SameBut T counted d d') (t : Ticket) (id : ClientId) :
  Tally T counted (d.cancelOrder t id) (d'.cancelOrder t id)
  := by
  obtain ⟨tasks, sequence, rfl⟩ := h.exists_eq
  have hcache : { d with tasks, sequence }.cache = d.cache := rfl
  rw [Desk.cancelOrder, Desk.cancelOrder, hcache]
  split
  · exact h.finish t _
  · dsimp only
    split
    · exact h.finish t _
    · exact ⟨h.setTask t _, rfl⟩

/-- Events on other tickets show the same, and leave the other tasks the same. -/
theorem SameBut.step (h : SameBut T counted d d') (he : e.isAbout T = false)
    (hid : counted = true ∨ e.generatesId = false) :
  Tally T counted (d.step e) (d'.step e)
  := by
  have found {t : Ticket} (ht : e.ticket? = some t) : d'.task? t = d.task? t := by
    apply h.task?_eq
    rw [DeskEvent.isAbout, ht] at he
    exact he
  obtain ⟨tasks, sequence, rfl⟩ := h.exists_eq
  have rests : Tally T counted (d, []) ({ d with tasks, sequence }, []) := ⟨h, rfl⟩
  cases e with
  | begin t operation =>
    rw [Desk.step, Desk.step, begin.eq_def, begin.eq_def, found rfl]
    dsimp only
    split
    · cases operation with
      | submit order clientId => exact h.submit t hid
      | cancel id => exact h.cancelOrder t id
      | reconcile => exact ⟨h.setTask t _, rfl⟩
    · exact rests
  | resume t word =>
    rw [Desk.step, Desk.step, found rfl]
    split
    · split
      · exact h.attempt t _ _ _ word
      · exact rests
    · exact rests
  | accepted t response =>
    rw [Desk.step, Desk.step, found rfl]
    split
    · exact h.settleSubmitted t _ _ _
    · exact rests
  | acknowledged t raw =>
    rw [Desk.step, Desk.step, found rfl]
    split
    · exact h.acknowledge t _ _ raw
    · exact rests
  | listed t orders =>
    rw [Desk.step, Desk.step, found rfl]
    split
    · exact ⟨h.setTask t _, rfl⟩
    · exact rests
  | compare t =>
    rw [Desk.step, Desk.step, found rfl]
    split
    · exact h.report t _
    · exact rests
  | failed t failure word =>
    rw [Desk.step, Desk.step, found rfl]
    split
    · split
      · exact h.follow t _ _
      · exact rests
    · exact rests
  | paused t =>
    rw [Desk.step, Desk.step, found rfl]
    split
    · split
      · exact ⟨h.setTask t _, rfl⟩
      · exact rests
    · exact rests
  | interrupted t =>
    have hcancelled : { d with tasks, sequence }.isCancelled = d.isCancelled := rfl
    rw [Desk.step, Desk.step, found rfl, hcancelled]
    split
    · split
      · split
        · exact h.giveUp t _ _
        · exact rests
      · exact rests
    · exact rests
  | wake t =>
    rw [Desk.step, Desk.step, found rfl]
    split
    · exact h.withParts.followCall t _ _
    · exact rests
  | abort t =>
    rw [Desk.step, Desk.step, Desk.abort, Desk.abort, found rfl]
    split
    · exact rests
    · exact h.drop t
    · exact rests
  | cancel => exact ⟨h.withParts, rfl⟩
  | advance nanoseconds => exact ⟨h.withParts, rfl⟩
  | update id response => exact ⟨h.withParts, rfl⟩

/-- Events on other tickets show the same in a run. -/
theorem SameBut.shown (h : SameBut T true d d') (apart : ∀ e ∈ events, e.isAbout T = false) :
  d'.shown events = d.shown events
  := by
  induction events generalizing d d' with
  | nil => rfl
  | cons e events ih =>
    rw [List.forall_mem_cons] at apart
    obtain ⟨hsame, hshown⟩ := h.step apart.1 (.inl rfl)
    rw [shown_cons, shown_cons, hshown, ih hsame apart.2]

end Desk

end OrderDesk
