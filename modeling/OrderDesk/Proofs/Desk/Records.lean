import OrderDesk.Proofs.Desk.Begun
import OrderDesk.Proofs.Desk.History
import OrderDesk.Proofs.Desk.Results

/-!
# The audit log is the list of successes

An operation is audited in the step in which it returns a success, whether its task owned the id,
waited for another one or found the answer in the cache.  The log is therefore, entry by entry,
what the operations have returned, and it only ever grows.
-/

namespace OrderDesk

/-- What the audit log keeps of an answer. -/
def Answer.value : Answer → Value
  | .response payload => .obj payload
  | .report difference => difference.toValue

/-- How the operation to which the venue grants something is audited. -/
def Grant.action : Grant → AuditAction
  | .accepted _ _ _ _ => .submitOrder
  | .acknowledged _ _ _ _ => .cancelOrder

/-- The success that an effect shows. -/
def DeskEffect.success? : DeskEffect → Option (Ticket × Answer)
  | .finished t (.ok answer) => some (t, answer)
  | _ => none

namespace Desk

variable {d d' : Desk} {e : DeskEvent} {t : Ticket} {action : AuditAction}

/-- The successes that are shown, under the tickets of the operations. -/
def successes (effects : List DeskEffect) : List (Ticket × Answer) :=
  effects.filterMap DeskEffect.success?

theorem successes_append (effects effects' : List DeskEffect) :
  successes (effects ++ effects') = successes effects ++ successes effects'
  := List.filterMap_append

theorem mem_successes {effects : List DeskEffect} {answer : Answer} :
  (t, answer) ∈ successes effects ↔ .finished t (.ok answer) ∈ effects
  := by
  rw [successes, List.mem_filterMap]
  constructor
  · rintro ⟨x, hx, heq⟩
    rw [DeskEffect.success?.eq_def] at heq
    split at heq
    · cases heq
      exact hx
    · cases heq
  · intro h
    exact ⟨_, h, rfl⟩

/-! ### Steps -/

/-- In the event an operation that is audited in a certain way goes on or begins. -/
inductive Acts (d : Desk) : DeskEvent → Ticket → AuditAction → Prop where
  | goesOn (e : DeskEvent) {t : Ticket} {task : Task} {action : AuditAction}
      (htask : d.task? t = some task) (hactive : task.action? = some action) : Acts d e t action
  | begins {t : Ticket} (operation : Operation) (fresh : d.task? t = none)
      (unasked : d.shared.call? t = none) : Acts d (.begin t operation) t operation.action

/-- What an event does to the audit log. -/
inductive Audits (d : Desk) (e : DeskEvent) (p : Desk × List DeskEffect) : Prop where
  | silent (audit : p.1.audit = d.audit) (none : successes p.2 = [])
  /-- An operation succeeds and is audited with what it returns. -/
  | returns {t : Ticket} {action : AuditAction} (payload : Payload) (answer : Answer)
      (acts : d.Acts e t action)
      (audit : p.1.audit = d.audit.append action payload answer.value)
      (one : successes p.2 = [(t, answer)])

theorem audits_finish_error (haudit : d'.audit = d.audit) (failure : Failure) :
  d.Audits e (d'.finish t (.error failure))
  := .silent haudit rfl

theorem audits_returnSubmitted (haudit : d'.audit = d.audit) (acts : d.Acts e t .submitOrder)
    (id : ClientId) (request : Payload) (outcome : Outcome) :
  d.Audits e (d'.returnSubmitted t id request outcome)
  := by
  cases outcome with
  | ok response =>
    let answer : Answer := .response (d'.venue.annotate id request response)
    apply Audits.returns (d'.venue.submitRecord id request) answer acts
    · rw [← haudit]
      rfl
    · rfl
  | error failure => exact audits_finish_error haudit failure

theorem audits_followCall (haudit : d'.audit = d.audit) (acts : d.Acts e t .submitOrder)
    (id : ClientId) (request : Payload) :
  d.Audits e (d'.followCall t id request)
  := by
  rw [followCall]
  split
  · exact .silent haudit rfl
  · exact .silent haudit rfl
  · apply audits_returnSubmitted haudit acts
  · exact .silent haudit rfl

theorem audits_report (haudit : d'.audit = d.audit) (acts : d.Acts e t .reconcile)
    (orders : List Payload) :
  d.Audits e (d'.report t orders)
  := by
  let difference := Reconciliation.diff (d'.cache.keys.map ClientId.text)
    (orders.filterMap d'.venue.token?)
  apply Audits.returns .empty (.report difference) acts
  · rw [← haudit]
    rfl
  · rfl

theorem silent_giveUp {task : Task} {stage : RetryStage} (hstage : task.stage? = some stage)
    (failure : Failure) :
  (d.giveUp t task failure).1.audit = d.audit ∧ successes (d.giveUp t task failure).2 = []
  := by
  cases task with
  | submitting id request stage' => exact ⟨rfl, rfl⟩
  | cancelling id target stage' => exact ⟨rfl, rfl⟩
  | reconciling stage' =>
    rw [giveUp]
    split
    · exact ⟨rfl, rfl⟩
    · exact ⟨rfl, rfl⟩
  | waiting => cases hstage
  | comparing => cases hstage
  | finished => cases hstage
  | dropped => cases hstage

/-- The retries of a task get on without a success. -/
theorem silent_follow {task : Task} {stage : RetryStage} (hstage : task.stage? = some stage)
    (next : RetryStep Empty) :
  (d.follow t task next).1.audit = d.audit ∧ successes (d.follow t task next).2 = []
  := by
  cases next with
  | finish result =>
    cases result with
    | ok a => exact a.elim
    | error failure => exact silent_giveUp hstage failure
  | crash => exact ⟨rfl, rfl⟩
  | goOn stage' =>
    cases stage' with
    | ready => exact ⟨rfl, rfl⟩
    | running => exact ⟨rfl, rfl⟩
    | pausing => exact ⟨rfl, rfl⟩

theorem Retries.successes_eq {task : Task} {limiter : RateLimiter} {shown : List DeskEffect}
    {next : RetryStep Empty} (h : d.Retries t task e limiter shown next) :
  successes shown = []
  := by
  cases h with
  | _ => rfl

/-- An event changes the audit log only if an operation returns a success in it. -/
theorem audits_step (d : Desk) (e : DeskEvent) :
  d.Audits e (d.step e)
  := by
  have m := d.step_move e
  generalize d.step e = p at m
  cases m with
  | rest => exact .silent rfl rfl
  | reject => exact .silent rfl rfl
  | @submit t order clientId request fresh unasked =>
    apply audits_followCall
    · rfl
    · exact .begins (.submit order clientId) fresh unasked
  | cancelOrder => exact .silent rfl rfl
  | reconcile => exact .silent rfl rfl
  | call => exact .silent rfl rfl
  | @retry t task _ limiter shown next htask retries =>
    obtain ⟨stage, hstage⟩ := retries.exists_stage
    obtain ⟨haudit, hnone⟩ := silent_follow (d := { d with limiter }) (t := t) hstage next
    refine .silent haudit ?_
    rw [successes_append, retries.successes_eq, hnone]
    rfl
  | accept response htask =>
    rw [settleSubmitted]
    apply audits_returnSubmitted
    · rfl
    · exact .goesOn _ htask rfl
  | @acknowledge t id target n raw htask =>
    let answer : Answer := .response (d.venue.cancelResponse target raw)
    apply Audits.returns (d.venue.cancelRecord target) answer (.goesOn _ htask rfl)
    · rfl
    · rfl
  | list => exact .silent rfl rfl
  | compare htask => exact audits_report rfl (.goesOn _ htask rfl) _
  | wake htask =>
    apply audits_followCall
    · rfl
    · exact .goesOn _ htask rfl
  | abort => exact .silent rfl rfl
  | cancel => exact .silent rfl rfl
  | advance => exact .silent rfl rfl
  | update => exact .silent rfl rfl

/-- An operation that succeeds in an event had not returned before it. -/
theorem Acts.unfinished (h : d.Acts e t action) :
  d.Unfinished t
  := by
  cases h with
  | goesOn e htask hactive =>
    apply unfinished_of_task? htask
    rintro result rfl
    cases hactive
  | begins operation fresh => exact unfinished_of_fresh fresh

/-- The audit log only grows. -/
theorem audit_prefix_step (d : Desk) (e : DeskEvent) :
  d.audit <+: (d.step e).1.audit
  := by
  cases d.audits_step e with
  | silent audit => exact ⟨[], audit.symm ▸ List.append_nil _⟩
  | returns payload answer acts audit =>
    rw [audit]
    apply List.prefix_append

/-! ### Runs -/

/-- The entry is the record of a success: that of an operation that has begun, with what it has
returned. -/
def Records (operations : List (Ticket × Operation)) (success : Ticket × Answer)
    (entry : AuditEntry) : Prop :=
  ∃ operation, (success.1, operation) ∈ operations
    ∧ entry.action = operation.action ∧ entry.response = success.2.value

theorem Records.mono {operations operations' : List (Ticket × Operation)}
    {success : Ticket × Answer} {entry : AuditEntry} (h : Records operations success entry)
    (hsub : operations ⊆ operations') :
  Records operations' success entry
  := by
  obtain ⟨operation, hmem, haction, hresponse⟩ := h
  exact ⟨operation, hsub hmem, haction, hresponse⟩

/-- The operation that acts in an event has begun, by then or in it. -/
theorem Acts.begun {operations : List (Ticket × Operation)} (h : d.Acts e t action)
    (hd : d.Begun operations) :
  ∃ operation, (t, operation) ∈ operations ++ (d.begins? e).toList ∧ operation.action = action
  := by
  cases h with
  | goesOn e htask hactive =>
    obtain ⟨operation, hmem, haction⟩ := hd.active htask hactive
    exact ⟨operation, List.mem_append_left _ hmem, haction⟩
  | begins operation fresh unasked =>
    use operation
    constructor
    · apply List.mem_append_right
      exact Option.mem_toList.2 (begins?_eq_some.2 ⟨rfl, fresh, unasked⟩)
    · rfl

/-- The audit log of the desk records what has been returned, by the operations that have begun,
and numbers it. -/
structure Logged (d : Desk) (operations : List (Ticket × Operation))
    (returned : List (Ticket × Answer)) : Prop where
  begun : d.Begun operations
  once : (returned.map Prod.fst).Nodup
  finished {t : Ticket} {answer : Answer} (hmem : (t, answer) ∈ returned) :
    d.task? t = some (.finished (.ok answer))
  records : List.Forall₂ (Records operations) returned d.audit
  numbered : d.audit.map AuditEntry.sequence = List.range d.audit.length

theorem Logged.step {operations : List (Ticket × Operation)} {returned : List (Ticket × Answer)}
    (h : d.Logged operations returned) (e : DeskEvent) :
  (d.step e).1.Logged (operations ++ (d.begins? e).toList)
    (returned ++ successes (d.step e).2)
  := by
  have kept : List.Forall₂ (Records (operations ++ (d.begins? e).toList)) returned d.audit :=
    h.records.imp fun _ _ records => records.mono (List.subset_append_left _ _)
  have finished {t : Ticket} {answer : Answer}
      (hmem : (t, answer) ∈ returned ++ successes (d.step e).2) :
      (d.step e).1.task? t = some (.finished (.ok answer)) := by
    obtain hmem | hmem := List.mem_append.1 hmem
    · apply finished_step (h.finished hmem)
    · obtain ⟨-, htask⟩ := (d.returns_step e t (.ok answer)).1 (mem_successes.1 hmem)
      exact htask
  have begun := h.begun.step e
  cases d.audits_step e with
  | silent audit none =>
    rw [none, List.append_nil] at finished ⊢
    rw [← audit] at kept
    refine ⟨begun, h.once, finished, kept, ?_⟩
    rw [audit]
    exact h.numbered
  | @returns t action payload answer acts audit one =>
    rw [one] at finished ⊢
    refine ⟨begun, ?_, finished, ?_, ?_⟩
    · have unused : t ∉ returned.map Prod.fst := by
        intro hmem
        obtain ⟨⟨_, answer'⟩, hreturned, rfl⟩ := List.mem_map.1 hmem
        exact acts.unfinished _ (h.finished hreturned)
      rw [List.map_append, List.nodup_append_comm]
      exact List.nodup_cons.2 ⟨unused, h.once⟩
    · obtain ⟨operation, hmem, haction⟩ := acts.begun h.begun
      rw [audit, AuditLog.append]
      apply List.rel_append kept
      exact .cons ⟨operation, hmem, haction.symm, rfl⟩ .nil
    · rw [audit, AuditLog.append, List.map_append, h.numbered, List.length_append,
        List.length_singleton, List.range_succ]
      rfl

theorem Logged.after {operations : List (Ticket × Operation)} {returned : List (Ticket × Answer)}
    (h : d.Logged operations returned) (events : List DeskEvent) :
  (d.after events).Logged (operations ++ d.begun events)
    (returned ++ successes (d.shown events))
  := by
  induction events generalizing d operations returned with
  | nil =>
    rw [Desk.begun, shown_nil, successes, List.filterMap_nil, List.append_nil, List.append_nil]
    exact h
  | cons e events ih =>
    rw [after_cons, Desk.begun, shown_cons, successes_append, ← List.append_assoc,
      ← List.append_assoc]
    apply ih (h.step e)

theorem audit_prefix_after (d : Desk) (events : List DeskEvent) :
  d.audit <+: (d.after events).audit
  := by
  induction events generalizing d with
  | nil => exact List.prefix_rfl
  | cons e events ih =>
    rw [after_cons]
    exact (d.audit_prefix_step e).trans (ih _)

/-- What the venue grants, it grants to an operation that has begun for it and that succeeds. -/
theorem grants_returned {operations : List (Ticket × Operation)} (h : d.Begun operations)
    {events : List DeskEvent} {g : Grant} (hmem : g ∈ d.grants events) :
  ∃ operation answer, (g.ticket, operation) ∈ operations ++ d.begun events
    ∧ operation.action = g.action
    ∧ (d.after events).task? g.ticket = some (.finished (.ok answer))
  := by
  induction events generalizing d operations with
  | nil => cases hmem
  | cons e events ih =>
    obtain hmem | hmem := List.mem_append.1 hmem
    · have grants := granted?_eq_some.1 (Option.mem_toList.1 hmem)
      obtain ⟨answer, htask⟩ := grants.finished
      obtain ⟨operation, hbegun, haction⟩ : ∃ operation, (g.ticket, operation) ∈ operations
          ∧ operation.action = g.action := by
        cases grants with
        | accepted response hrunning => exact h.active hrunning rfl
        | acknowledged raw hrunning => exact h.active hrunning rfl
      refine ⟨operation, answer, List.mem_append_left _ hbegun, haction, ?_⟩
      rw [after_cons]
      apply finished_after htask
    · rw [after_cons, Desk.begun, ← List.append_assoc]
      apply ih (h.step e) hmem

/-- At a desk where nothing has happened nothing has been returned. -/
theorem logged_opened (venue : VenueProfile) (retry : RetryConfig) (limiter : RateLimiter)
    (token : Option Bool) :
  (opened venue retry limiter token).Logged [] []
  := by
  have begun : (opened venue retry limiter token).Begun [] := by
    refine ⟨coupled_opened venue retry limiter token, List.nodup_nil, nofun, ?_⟩
    intro t task action htask
    cases htask
  exact ⟨begun, List.nodup_nil, nofun, .nil, rfl⟩

/-- The audit log is the list of successes.  After every run of events at a desk, each operation
that has begun has its own ticket; the successes that the run has shown are those of the operations
that have come to one, one for each, so that operations that fail or are dropped have none; and the
audit log has, in the order in which they were shown, one entry for each success and no others,
with the action of the operation that returned it and with what it returned, numbered from zero.
Whatever the venue has granted, it has granted to an operation of that kind that has succeeded.
And whatever happens later, the log is only appended to. -/
theorem audit_log_is_the_list_of_successes (venue : VenueProfile) (retry : RetryConfig)
    (limiter : RateLimiter) (token : Option Bool) (events : List DeskEvent) :
  let start := opened venue retry limiter token
  let d := start.after events
  let operations := start.begun events
  let returned := successes (start.shown events)
  (operations.map Prod.fst).Nodup
  ∧ (returned.map Prod.fst).Nodup
  ∧ (∀ t answer, (t, answer) ∈ returned ↔ d.task? t = some (.finished (.ok answer)))
  ∧ List.Forall₂ (Records operations) returned d.audit
  ∧ d.audit.map AuditEntry.sequence = List.range d.audit.length
  ∧ (∀ g ∈ start.grants events, ∃ operation answer, (g.ticket, operation) ∈ operations
      ∧ operation.action = g.action ∧ (g.ticket, answer) ∈ returned)
  ∧ ∀ later, d.audit <+: (d.after later).audit
  := by
  intro start d operations returned
  have hstart : start.Logged [] [] := logged_opened venue retry limiter token
  have h : d.Logged operations returned := hstart.after events
  have hreturned (t : Ticket) (answer : Answer) :
      (t, answer) ∈ returned ↔ d.task? t = some (.finished (.ok answer)) := by
    have fresh : start.Unfinished t := unfinished_of_fresh rfl
    rw [mem_successes, start.returns_after events t, and_iff_right fresh]
  refine ⟨h.begun.once, h.once, hreturned, h.records, h.numbered, ?_, d.audit_prefix_after⟩
  intro g hmem
  obtain ⟨operation, answer, hbegun, haction, htask⟩ := grants_returned hstart.begun hmem
  exact ⟨operation, answer, hbegun, haction, (hreturned _ _).2 htask⟩

end Desk

end OrderDesk
