import OrderDesk.Proofs.Desk.Answers
import OrderDesk.Proofs.Desk.Attempts
import OrderDesk.Proofs.Desk.History
import OrderDesk.Proofs.Desk.Numbering
import OrderDesk.Proofs.Fingerprint.Identity

/-!
# Generated ids are new unless they were supplied

A desk counts the ids that it generates, and does not look whether an id is in use already.  What
it knows are the ids that were supplied from outside and those that it has generated, so that the
next one is unknown to it unless it was supplied: then the submission resolves its id itself, and
neither another order nor another submission has any bearing on it.  An id that was supplied names
two orders: the second one is answered from the cache, waits for the first one, or is a conflict.
-/

namespace OrderDesk

namespace DeskEvent

/-- The id that an event supplies: that of a submission, or of a response that is put in place. -/
def suppliedId? : DeskEvent → Option ClientId
  | .begin _ (.submit _ clientId) => clientId
  | .update id _ => some id
  | _ => none

end DeskEvent

namespace Desk

variable {d : Desk} {e : DeskEvent} {t : Ticket} {id : ClientId} {request : Payload}
  {venue : VenueProfile} {order : Order} {clientId : Option ClientId} {past : List DeskEvent}

/-! ### The ids that a desk knows -/

/-- The cache knows the id, or an order under it is being cancelled. -/
inductive Knows (d : Desk) (id : ClientId) : Prop where
  | cache (h : d.shared.Knows id) : Knows d id
  | cancel {t : Ticket} {target : CancelTarget} {stage : RetryStage}
      (h : d.task? t = some (.cancelling id target stage)) : Knows d id

/-- The event supplies the id, or the desk generates it in the event. -/
inductive Brings (d : Desk) (e : DeskEvent) (id : ClientId) : Prop where
  | supplied (h : e.suppliedId? = some id) : Brings d e id
  | generated (counted : (d.step e).1.sequence = d.sequence + 1)
      (heq : id = .generated d.venue.name (d.sequence + 1)) : Brings d e id

/-- A desk comes to know only ids that are supplied or generated. -/
theorem Knows.of_step (h : (d.step e).1.Knows id) :
  d.Knows id ∨ d.Brings e id
  := by
  cases h with
  | cache h =>
    obtain hshared | ⟨e', touches, hshared⟩ := d.shared_step e
    · rw [hshared] at h
      exact .inl (.cache h)
    · rw [hshared] at h
      obtain hbefore | hid := h.of_step
      · exact .inl (.cache hbefore)
      · cases touches with
        | @asks t order clientId request fresh unasked complete built =>
          cases hid
          right
          cases clientId with
          | some id => exact .supplied rfl
          | none =>
            apply Brings.generated _ rfl
            rw [step_submit fresh unasked complete built]
            exact (keeps_followCall _ _ _ _).sequence_eq
        | quiet e quiet nameless => cases nameless.symm.trans hid
        | accepts => cases hid
        | acknowledges raw htask =>
          cases hid
          exact .inl (.cancel htask)
        | updates id response =>
          cases hid
          exact .inr (.supplied rfl)
  | cancel h =>
    left
    obtain ⟨stage', hbefore⟩ | ⟨response, cached, -⟩ := cancelling_of_step h
    · exact .cancel hbefore
    · obtain ⟨entry, hentry, -⟩ := Option.map_eq_some_iff.1 cached
      exact .cache (.slot (Cache.entry?_eq_some.1 hentry))

/-! ### The number of ids generated -/

/-- The ids that the desk knows are accounted for by what has happened: they have been supplied,
or are among those that it has generated. -/
structure Accounted (d : Desk) (past : List DeskEvent) : Prop where
  counted : d.sequence.toNat ≤ past.countP DeskEvent.isSubmission
  named {id : ClientId} (known : d.Knows id) :
    (∃ e ∈ past, e.suppliedId? = some id)
      ∨ ∃ k, k ≤ d.sequence ∧ id = .generated d.venue.name k

namespace Accounted

/-- The next id has the next number, as long as there is one. -/
theorem toNat_next (h : d.Accounted past)
    (few : past.countP DeskEvent.isSubmission + 1 < UInt64.size) :
  (d.sequence + 1).toNat = d.sequence.toNat + 1
  := by
  have hle := h.counted
  rw [UInt64.size] at few
  rw [UInt64.toNat_add]
  apply Nat.mod_eq_of_lt
  apply Nat.lt_of_le_of_lt _ few
  exact Nat.succ_le_succ hle

theorem step (h : d.Accounted past)
    (few : (past ++ [e]).countP DeskEvent.isSubmission < UInt64.size) :
  (d.step e).1.Accounted (past ++ [e])
  := by
  rw [List.countP_append, List.countP_singleton] at few
  have hle := h.counted
  have grows : d.sequence ≤ (d.step e).1.sequence
      ∧ (d.step e).1.sequence.toNat ≤ (past ++ [e]).countP DeskEvent.isSubmission := by
    rw [List.countP_append, List.countP_singleton]
    obtain hsame | ⟨hsubmission, hnext⟩ := d.sequence_step e
    · rw [hsame]
      exact ⟨UInt64.le_refl _, Nat.le_add_right_of_le hle⟩
    · rw [if_pos hsubmission] at few ⊢
      rw [hnext, UInt64.le_iff_toNat_le, h.toNat_next few]
      exact ⟨Nat.le_succ _, Nat.succ_le_succ hle⟩
  constructor
  · exact grows.2
  · intro id known
    rw [venue_step]
    obtain hbefore | hbrings := known.of_step
    · obtain ⟨e', hmem, hid⟩ | ⟨k, hk, hid⟩ := h.named hbefore
      · exact .inl ⟨e', List.mem_append_left _ hmem, hid⟩
      · exact .inr ⟨k, UInt64.le_trans hk grows.1, hid⟩
    · cases hbrings with
      | supplied hid =>
        exact .inl ⟨e, List.mem_append_right _ (List.mem_singleton_self e), hid⟩
      | generated counted hid =>
        rw [← counted] at hid
        exact .inr ⟨_, UInt64.le_refl _, hid⟩

theorem after (h : d.Accounted past) {events : List DeskEvent}
    (few : (past ++ events).countP DeskEvent.isSubmission < UInt64.size) :
  (d.after events).Accounted (past ++ events)
  := by
  induction events generalizing d past with
  | nil =>
    rw [List.append_nil]
    exact h
  | cons e events ih =>
    rw [List.append_cons] at few ⊢
    rw [after_cons]
    apply ih _ few
    apply h.step
    apply Nat.lt_of_le_of_lt _ few
    exact (List.sublist_append_left _ events).countP_le

/-- The id that is generated next is not known unless it has been supplied. -/
theorem not_knows_next (h : d.Accounted past)
    (few : past.countP DeskEvent.isSubmission + 1 < UInt64.size)
    (unsupplied : ∀ e ∈ past,
      e.suppliedId? ≠ some (.generated d.venue.name (d.sequence + 1))) :
  ¬d.Knows (.generated d.venue.name (d.sequence + 1))
  := by
  intro known
  obtain ⟨e, hmem, hid⟩ | ⟨k, hk, hid⟩ := h.named known
  · exact unsupplied e hmem hid
  · rw [ClientId.generated_inj] at hid
    rw [← hid, UInt64.le_iff_toNat_le, h.toNat_next few] at hk
    exact absurd hk (Nat.not_succ_le_self _)

end Accounted

/-- At a desk where nothing has happened no id is known. -/
theorem accounted_opened (venue : VenueProfile) (retry : RetryConfig) (limiter : RateLimiter)
    (token : Option Bool) :
  (opened venue retry limiter token).Accounted []
  := by
  constructor
  · exact Nat.le_refl _
  · rintro id (⟨⟨h⟩ | ⟨h⟩⟩ | ⟨h⟩)
    · cases h
    · cases h
    · cases h

/-! ### Submissions that resolve their id -/

/-- What becomes of a submission that resolves its id itself: it calls the venue until it is dropped
or returns, and it fails only as its attempts do. -/
inductive Resolves (venue : VenueProfile) (id : ClientId) (request : Payload) : Task → Prop where
  | calling (stage : RetryStage) : Resolves venue id request (.submitting id request stage)
  | finished {result : Result}
      (failed : ∀ failure, result = .error failure → AttemptFailure venue failure) :
      Resolves venue id request (.finished result)
  | dropped : Resolves venue id request .dropped

/-- An unknown id has no slot. -/
theorem slot?_of_not_knows (unknown : ¬d.Knows id) :
  d.cache.slot? id = none
  := by
  cases hslot : d.cache.slot? id with
  | none => rfl
  | some slot => exact absurd (.cache (.slot hslot)) unknown

/-- A submission whose id is resolved is answered with what the id stands for. -/
theorem answered_of_resolved (fresh : d.task? t = none) (unasked : d.shared.call? t = none)
    (complete : order.isComplete = true)
    (built : d.venue.buildRequest (d.resolveId clientId).2 order = .ok request)
    {entry : CacheEntry} (hentry : d.cache.entry? (d.resolveId clientId).2 = some entry) :
  (d.step (.begin t (.submit order clientId))).2
    = [.finished t ((entry.answer (d.resolveId clientId).2 (.of request)).map fun response =>
        .response (d.venue.annotate (d.resolveId clientId).2 request response))]
  := (concludes_of_resolved fresh unasked complete built hentry).shown

namespace Resolves

variable {task : Task} {k : Nat}

theorem eq_submitting (h : Resolves venue id request task) {stage : RetryStage}
    (hstage : task.stage? = some stage) :
  task = .submitting id request stage
  := by
  cases h with
  | calling => cases hstage; rfl
  | finished => cases hstage
  | dropped => cases hstage

/-- The retries of a submission that resolves its id get on. -/
theorem follow (h : Resolves venue id request task) {stage : RetryStage}
    (hstage : task.stage? = some stage) {attempts : Nat} {next : RetryStep Empty}
    (leads : Leads venue attempts k next) :
  ∃ task', (d.follow t task next).1.task? t = some task' ∧ Resolves venue id request task'
  := by
  cases leads with
  | @finish failure within failed =>
    obtain ⟨task', htask, rfl | ⟨hother, -⟩⟩ := d.task?_giveUp t hstage failure t
    · rw [Desk.follow, htask, if_pos rfl]
      refine ⟨_, rfl, .finished ?_⟩
      rintro _ ⟨⟩
      exact failed
    · cases (h.eq_submitting hstage).symm.trans hother
  | crash =>
    rw [Desk.follow, Desk.drop, task?_setTask, if_pos rfl]
    exact ⟨_, rfl, .dropped⟩
  | @goOn stage' =>
    rw [follow_goOn, task?_setTask, if_pos rfl, h.eq_submitting hstage]
    exact ⟨_, rfl, .calling stage'⟩

/-- No event has the submission wait for another one or return what another one has. -/
theorem step (h : Resolves d.venue id request task) (htask : d.task? t = some task)
    (spends : Spends d.venue d.retry.attempts (d.task? t) k) (e : DeskEvent) :
  ∃ task', (d.step e).1.task? t = some task' ∧ Resolves d.venue id request task'
  := by
  have other {u : Ticket} {d' : Desk} (hne : t ≠ u) (leaves : d.LeavesOthers u d') :
      ∃ task', d'.task? t = some task' ∧ Resolves d.venue id request task' :=
    ⟨task, (leaves t hne).trans htask, h⟩
  have used {u : Ticket} (fresh : d.task? u = none) : t ≠ u := by
    rintro rfl
    cases fresh.symm.trans htask
  have unlike {u : Ticket} {task' : Task} (htask' : d.task? u = some task')
      (hnot : ¬Resolves d.venue id request task') : t ≠ u := by
    rintro rfl
    cases htask'.symm.trans htask
    exact hnot h
  have m := d.step_move e
  generalize d.step e = p at m
  cases m with
  | rest => exact ⟨task, htask, h⟩
  | reject fresh => exact other (used fresh) (leavesOthers_setTask rfl _)
  | submit fresh => exact other (used fresh) (leavesOthers_followCall rfl)
  | cancelOrder fresh => exact other (used fresh) (leavesOthers_setTask rfl _)
  | reconcile fresh => exact other (used fresh) (leavesOthers_setTask rfl _)
  | @call u task' n _ limiter word htask' stage =>
    by_cases heq : t = u
    · subst heq
      cases htask'.symm.trans htask
      rw [task?_setTask, if_pos rfl, h.eq_submitting stage]
      exact ⟨_, rfl, .calling (.running n)⟩
    · exact other heq (leavesOthers_setTask rfl _)
  | @retry u task' _ limiter shown next htask' retries =>
    obtain ⟨stage, hstage⟩ := retries.exists_stage
    by_cases heq : t = u
    · subst heq
      cases htask'.symm.trans htask
      rw [htask] at spends
      exact h.follow hstage (retries.leads spends)
    · exact other heq (leavesOthers_follow rfl hstage next)
  | @accept u id' request' n response htask' =>
    by_cases heq : t = u
    · subst heq
      refine ⟨_, (task?_setTask _ _ _ _).trans (if_pos rfl), .finished ?_⟩
      exact nofun
    · exact other heq ((settleSubmitted_ends _ _ _ _ _).leavesOthers rfl)
  | acknowledge raw htask' => exact other (unlike htask' nofun) (leavesOthers_setTask rfl _)
  | list orders htask' => exact other (unlike htask' nofun) (leavesOthers_setTask rfl _)
  | compare htask' => exact other (unlike htask' nofun) (leavesOthers_setTask rfl _)
  | wake htask' => exact other (unlike htask' nofun) (leavesOthers_followCall rfl)
  | @abort u =>
    by_cases heq : t = u
    · subst heq
      exact ⟨_, (task?_setTask _ _ _ _).trans (if_pos rfl), .dropped⟩
    · exact other heq (leavesOthers_setTask rfl _)
  | cancel => exact ⟨task, htask, h⟩
  | advance => exact ⟨task, htask, h⟩
  | update => exact ⟨task, htask, h⟩

theorem after (h : Resolves d.venue id request task) (htask : d.task? t = some task)
    (spends : Spends d.venue d.retry.attempts (d.task? t) k) (events : List DeskEvent) :
  ∃ task', (d.after events).task? t = some task' ∧ Resolves d.venue id request task'
  := by
  induction events generalizing d task k with
  | nil => exact ⟨task, htask, h⟩
  | cons e events ih =>
    obtain ⟨task', hafter, hresolves⟩ := h.step htask spends e
    have hspends := spends.step e
    rw [← d.venue_step e] at hresolves hspends ⊢
    rw [← d.retry_step e] at hspends
    rw [after_cons]
    exact ih hresolves hafter hspends

end Resolves

/-- A generated id is new unless it was supplied.  After every run of events at a desk with fewer
submissions than there are numbers, a submission without an id begins, of a complete order that can
be put to the venue.  If the id that it generates was not supplied in the run, the desk does not
know that id: the submission is not answered when it begins but resolves its id; whatever happens
later it calls the venue until it is dropped or returns, without waiting for another one, and it
fails only as its attempts do.  If the id has an entry, the submission is answered with that; while
another submission calls the venue for the id, it waits for that one if both are put to the venue as
the same request, and is a conflict otherwise; and in no other case does it not resolve its id. -/
theorem generated_id_is_new_unless_supplied (venue : VenueProfile) (retry : RetryConfig)
    (limiter : RateLimiter) (token : Option Bool) (events : List DeskEvent)
    (few : events.countP DeskEvent.isSubmission + 1 < UInt64.size) (t : Ticket) (order : Order)
    (request : Payload) :
  let d := (opened venue retry limiter token).after events
  let id := ClientId.generated venue.name (d.sequence + 1)
  d.task? t = none → order.isComplete = true → venue.buildRequest id order = .ok request →
    let p := d.step (.begin t (.submit order none))
    ((∀ e ∈ events, e.suppliedId? ≠ some id) →
      ¬d.Knows id ∧ p.2 = [] ∧ p.1.task? t = some (.submitting id request .start)
      ∧ ∀ later, ∃ task, (p.1.after later).task? t = some task ∧ Resolves venue id request task)
    ∧ (∀ entry, d.cache.entry? id = some entry →
        p.2 = [.finished t ((entry.answer id (.of request)).map fun response =>
          .response (venue.annotate id request response))])
    ∧ (∀ u request' stage, d.task? u = some (.submitting id request' stage) →
        (request' = request → p.2 = [] ∧ p.1.task? t = some (.waiting id request))
        ∧ (request' ≠ request → p.2 = [.finished t (.error (.fatal (.orderConflict id)))]))
    ∧ (d.cache.entry? id = none →
        (∀ u request' stage, d.task? u ≠ some (.submitting id request' stage)) →
          p.2 = [] ∧ p.1.task? t = some (.submitting id request .start))
  := by
  intro d id fresh complete built p
  have coupled : d.Coupled := (coupled_opened venue retry limiter token).after events
  have unasked : d.shared.call? t = none := coupled.call_of_fresh fresh
  have hvenue : d.venue = venue := venue_after _ events
  have hid : (d.resolveId none).2 = id := by
    rw [resolveId, hvenue]
  rw [← hvenue, ← hid] at built
  refine ⟨?_, ?_, ?_, ?_⟩
  · intro unsupplied
    have unknown : ¬d.Knows id := by
      have few' : ([] ++ events).countP DeskEvent.isSubmission < UInt64.size :=
        Nat.lt_of_succ_lt few
      have accounted : d.Accounted events :=
        (accounted_opened venue retry limiter token).after few'
      have h := accounted.not_knows_next few
      rw [hvenue] at h
      exact h unsupplied
    obtain ⟨silent, htask⟩ :=
      step_of_free fresh unasked complete built (slot?_of_not_knows (hid.symm ▸ unknown))
    rw [hid] at htask
    refine ⟨unknown, silent, htask, ?_⟩
    intro later
    have spends : Spends p.1.venue p.1.retry.attempts (p.1.task? t) 0 := by
      have hstage : (Task.submitting id request .start).stage? = some .start := rfl
      rw [htask]
      exact .trying hstage (RetryConfig.attempts_pos _)
    have resolves : Resolves p.1.venue id request (.submitting id request .start) :=
      .calling .start
    have hafter := resolves.after htask spends later
    rw [venue_step, hvenue] at hafter
    exact hafter
  · intro entry hentry
    rw [← hid] at hentry
    have hanswered := answered_of_resolved fresh unasked complete built hentry
    rw [hid, hvenue] at hanswered
    exact hanswered
  · intro u request' stage htask
    have hslot := coupled.sound.slot (coupled.call_of_submitting htask)
    rw [← hid] at hslot
    constructor
    · rintro rfl
      have hwaits := step_of_pending fresh unasked complete built hslot
      rw [hid] at hwaits
      exact hwaits
    · intro hne
      have differs : Fingerprint.of request' ≠ .of request := hne ∘ Fingerprint.of_inj.1
      have hconflict := (concludes_of_conflict fresh unasked complete built hslot differs).shown
      rw [hid] at hconflict
      exact hconflict
  · intro unresolved idle
    have free := slot?_eq_none coupled unresolved idle
    rw [← hid] at free
    have hresolves := step_of_free fresh unasked complete built free
    rw [hid] at hresolves
    exact hresolves

/-- One order is submitted at Alpaca under an id of its own and another one without an id, which
fails: the next id that is generated is the second, and new. -/
theorem second_generated_id_is_new :
  let order : Order := .market "EUR" .buy ⟨false, 1, 0, by decide, by decide⟩
  let events : List DeskEvent := [
    .begin "a" (.submit order (some ⟨"x"⟩)), .resume "a" 0, .begin "b" (.submit order none),
    .resume "b" 0, .failed "b" (.timeout "late") 0, .accepted "a" .empty]
  let d := (opened Venue.alpaca (.immediate 1) ⟨.perSecond 9, by decide, []⟩ none).after events
  let id := ClientId.generated "alpaca" (d.sequence + 1)
  events.countP DeskEvent.isSubmission + 1 < UInt64.size
  ∧ d.task? "c" = none ∧ order.isComplete = true
  ∧ (∃ request, Venue.alpaca.buildRequest id order = .ok request)
  ∧ (∀ e ∈ events, e.suppliedId? ≠ some id)
  ∧ id = ⟨"alpaca-000002"⟩ ∧ ¬d.Knows id
  := by
  intro order events d id
  have few : events.countP DeskEvent.isSubmission + 1 < UInt64.size := by decide
  have second : id = ⟨"alpaca-000002"⟩ := by decide +kernel
  have unsupplied : ∀ e ∈ events, e.suppliedId? ≠ some id := by
    rw [second]
    simp [events, DeskEvent.suppliedId?]
  have fresh : d.task? "c" = none := by decide +kernel
  have complete : order.isComplete = true := by decide
  obtain ⟨request, built⟩ : ∃ request, Venue.alpaca.buildRequest id order = .ok request := by
    rw [second]
    exact ⟨_, rfl⟩
  obtain ⟨hnew, -⟩ := generated_id_is_new_unless_supplied Venue.alpaca (.immediate 1)
    ⟨.perSecond 9, by decide, []⟩ none events few "c" order request fresh complete built
  obtain ⟨unknown, -⟩ := hnew unsupplied
  exact ⟨few, fresh, complete, ⟨request, built⟩, unsupplied, second, unknown⟩

/-- The first id that a desk generates at Alpaca was supplied before, and its order accepted.  A
submission of the same order without an id is answered with the response to that, and the
submission of another order fails with a conflict; neither calls the venue. -/
theorem supplied_id_is_generated_again :
  let order : Order := .market "EUR" .buy ⟨false, 1, 0, by decide, by decide⟩
  let other : Order := .market "EUR" .sell ⟨false, 1, 0, by decide, by decide⟩
  let id : ClientId := ⟨"alpaca-000001"⟩
  let d := (opened Venue.alpaca (.immediate 1) ⟨.perSecond 9, by decide, []⟩ none).after [
    .begin "a" (.submit order (some id)), .resume "a" 0, .accepted "a" .empty]
  order.isComplete = true ∧ (∃ request, Venue.alpaca.buildRequest id order = .ok request)
  ∧ other.isComplete = true ∧ (∃ request, Venue.alpaca.buildRequest id other = .ok request)
  ∧ (d.step (.begin "b" (.submit order none))).2
    = [.finished "b" (.ok (.response (.ofList [("client_order_id", .str id.text)])))]
  ∧ (d.step (.begin "b" (.submit other none))).2
    = [.finished "b" (.error (.fatal (.orderConflict id)))]
  := by
  intro order other id d
  let start := opened Venue.alpaca (.immediate 1) ⟨.perSecond 9, by decide, []⟩ none
  let events : List DeskEvent :=
    [.begin "a" (.submit order (some id)), .resume "a" 0, .accepted "a" .empty]
  let request := (Venue.alpaca.buildRequest id order).toOption.getD .empty
  let request' := (Venue.alpaca.buildRequest id other).toOption.getD .empty
  have operations : ∀ id response, .update id response ∉ events := by
    intro id response
    simp [events]
  have recorded : d.Recorded ([] ++ start.grants events) :=
    (recorded_opened Venue.alpaca (.immediate 1) ⟨.perSecond 9, by decide, []⟩ none).after
      operations
  have hgrants : start.grants events = [.accepted "a" id request .empty] := by decide +kernel
  have hentry : d.cache.entry? id = some ⟨.of request,
      d.venue.currentResponse [.accepted "a" id request .empty] id request .empty⟩ := by
    rw [hgrants] at recorded
    exact (recorded.stores id).eq_some List.mem_cons_self
  have hid : (d.resolveId none).2 = id := by decide +kernel
  have built : d.venue.buildRequest (d.resolveId none).2 order = .ok request := by decide +kernel
  have built' : d.venue.buildRequest (d.resolveId none).2 other = .ok request' := by
    decide +kernel
  have differs : Fingerprint.of request ≠ .of request' := by
    rw [Ne, Fingerprint.of_inj]
    decide +kernel
  have fresh : d.task? "b" = none := by decide +kernel
  have unasked := recorded.coupled.call_of_fresh fresh
  have complete : order.isComplete = true := by decide
  have complete' : other.isComplete = true := by decide
  refine ⟨complete, ⟨request, hid ▸ built⟩, complete', ⟨request', hid ▸ built'⟩, ?_, ?_⟩
  · rw [answered_of_resolved fresh unasked complete built (hid.symm ▸ hentry), CacheEntry.answer,
      if_pos rfl]
    decide +kernel
  · rw [answered_of_resolved fresh unasked complete' built' (hid.symm ▸ hentry),
      CacheEntry.answer, if_neg differs, hid]
    rfl

end Desk

end OrderDesk
