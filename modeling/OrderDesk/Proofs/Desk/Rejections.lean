import OrderDesk.Proofs.Desk.Failures
import OrderDesk.Proofs.Desk.Separation
import OrderDesk.Proofs.Desk.Submissions

/-!
# Invalid orders change nothing but the next id

A submission fails for an invalid order exactly if the order lacks something or has an extra with
the venue's name for the client id, and then as it begins, before anything else at the desk has
changed.  One thing may have: the reserved extra is found after the submission has had its id
generated.  So a run with such submissions shows what it shows without them, up to ids that are
generated after one of them has taken an id.
-/

namespace OrderDesk

namespace Venue

variable {venue : Venue} {id : ClientId} {order : Order} {failure : Failure}

/-- What is wrong with an order: it is not complete, or it has an extra with the reserved name. -/
def fault? (venue : Venue) (order : Order) : Option OrderFault :=
  if !order.isComplete then
    some (.incomplete order.side order.orderType order.quantity order.symbol)
  else if order.extras.contains venue.clientIdKey then some (.reservedExtra venue.clientIdKey)
  else none

/-- The event begins a submission of an order that something is wrong with. -/
def refuses (venue : Venue) : DeskEvent → Bool
  | .begin _ (.submit order _) => (venue.fault? order).isSome
  | _ => false

/-- A complete order is not put to the venue exactly if something is wrong with it. -/
theorem buildRequest_eq_error (complete : order.isComplete = true) :
  venue.buildRequest id order = .error failure
    ↔ ∃ fault, venue.fault? order = some fault ∧ failure = .fatal (.invalidOrder fault)
  := by
  rw [buildRequest_eq_error_iff, fault?, complete]
  by_cases reserved : order.extras.contains venue.clientIdKey = true
  · simp [reserved]
  · simp [reserved]

end Venue

/-- If an event about the tickets takes an id and another one takes one later, that is about the
tickets, too. -/
def DeskEvent.Defers (T : Ticket → Bool) (e later : DeskEvent) : Prop :=
  e.isAbout T = true → e.generatesId = true → later.generatesId = true → later.isAbout T = true

instance (T : Ticket → Bool) (e later : DeskEvent) : Decidable (DeskEvent.Defers T e later) :=
  inferInstanceAs (Decidable (_ → _ → _ → _))

namespace Desk

variable {d d' : Desk} {e : DeskEvent} {t : Ticket} {venue : Venue} {order : Order}
  {fault : OrderFault} {T : Ticket → Bool} {counted : Bool} {events : List DeskEvent}

/-! ### Refusals -/

/-- A submission of an order that something is wrong with ends as it begins; an id may have been
generated for it. -/
theorem step_of_fault (hvenue : d.venue = venue) (fresh : d.task? t = none)
    (unasked : d.shared.call? t = none) (hfault : venue.fault? order = some fault)
    (clientId : Option ClientId) :
  let e : DeskEvent := .begin t (.submit order clientId)
  d.step e = { d with sequence := if e.generatesId then d.sequence + 1 else d.sequence }.finish t
    (.error (.fatal (.invalidOrder fault)))
  := by
  intro e
  rw [step, begin, fresh, unasked]
  dsimp only
  by_cases complete : order.isComplete = true
  · have unbuilt : d.venue.buildRequest (d.resolveId clientId).2 order
        = .error (.fatal (.invalidOrder fault)) := by
      rw [hvenue]
      exact (Venue.buildRequest_eq_error complete).2 ⟨fault, hfault, rfl⟩
    rw [submit, if_pos complete, resolveId_eq]
    simp only [unbuilt]
    cases clientId with
    | some id => rfl
    | none => simp only [e, DeskEvent.generatesId, complete, resolveId, if_true]
  · have generates : e.generatesId = false := by
      cases clientId with
      | some id => rfl
      | none => exact Bool.eq_false_iff.2 complete
    rw [submit, if_neg complete, generates]
    rw [Venue.fault?, if_pos (by simpa using complete)] at hfault
    cases hfault
    rfl

/-- The outcome does not say that an order is invalid. -/
def Blameless (_ : ClientId) (outcome : Outcome) : Prop :=
  ∀ fault, outcome ≠ .error (.fatal (.invalidOrder fault))

/-- No outcome that a call on the cache has returned says that an order is invalid. -/
theorem warranted_after (venue : Venue) (retry : RetryConfig) (limiter : RateLimiter)
    (token : Option Bool) (events : List DeskEvent) :
  ((opened venue retry limiter token).after events).shared.Warranted Blameless
  := by
  refine (after_induction (motive := fun d => d.venue = venue ∧ d.Coupled
    ∧ d.shared.Warranted Blameless) ?_
    ⟨rfl, coupled_opened venue retry limiter token, SharedCache.warranted_empty⟩).2.2
  rintro e - d ⟨hvenue, hd, warranted⟩
  refine ⟨(d.venue_step e).trans hvenue, hd.step e, ?_⟩
  apply warranted_step warranted hd
  · rintro id cached - fault ⟨⟩
  · rintro id fault ⟨⟩
  · rintro t id request n response - - fault ⟨⟩
  · rintro - failure failed fault ⟨⟩
    rw [hvenue] at failed
    cases isEarly_of_attemptFailure failed

/-- Only a submission of an order that something is wrong with fails for an invalid order. -/
theorem fault?_of_finished (hvenue : d.venue = venue)
    (warranted : (d.step e).1.shared.Warranted Blameless)
    (hd : d.Coupled) (h : .finished t (.error (.fatal (.invalidOrder fault))) ∈ (d.step e).2) :
  ∃ order clientId, e = .begin t (.submit order clientId) ∧ d.task? t = none
    ∧ venue.fault? order = some fault
  := by
  have yields := yields_of_finished h
  generalize hresult : Except.error (Failure.fatal (.invalidOrder fault)) = result at yields
  cases yields with
  | rejected rejects =>
    cases hresult
    obtain ⟨-, fresh, -⟩ := begins?_eq_some.1 (begins?_of_finished h)
    cases rejects with
    | @incomplete order clientId missing =>
      refine ⟨order, clientId, rfl, fresh, ?_⟩
      rw [Venue.fault?, missing]
      rfl
    | @unbuilt order clientId _ complete request =>
      rw [hvenue] at request
      obtain ⟨fault', hfault, heq⟩ := (Venue.buildRequest_eq_error complete).1 request
      cases heq
      exact ⟨order, clientId, rfl, fresh, hfault⟩
    | untargeted cached target =>
      rw [hvenue] at target
      obtain ⟨-, -, heq⟩ := Venue.cancelTarget_eq_error.1 target
      cases heq
  | answered complete built answer =>
    rw [submitted_eq_error.1 hresult.symm] at answer
    cases Cache.failure_of_answered answer
  | @woken id id' request request' outcome htask hcall =>
    cases submitted_eq_error.1 hresult.symm
    exact absurd rfl (warranted t id request' _ (call?_of_woken hd htask hcall) fault)
  | accepted => cases submitted_eq_error.1 hresult.symm
  | acknowledged => cases hresult
  | compared => cases hresult
  | failed htask retries =>
    cases hresult
    have failed := retries.attemptFailure
    rw [hvenue] at failed
    cases isEarly_of_attemptFailure failed

/-! ### Runs -/

/-- A submission of an order that something is wrong with changes nothing but its own task, and the
number of ids generated if it has one generated. -/
theorem SameBut.refused (h : SameBut T counted d d') (hvenue : d'.venue = venue)
    (hT : e.isAbout T = true) (refused : venue.refuses e = true) :
  SameBut T (counted && !e.generatesId) d (d'.step e).1
  := by
  have rests : SameBut T (counted && !e.generatesId) d d' := by
    apply h.withSequence_right
    intro counts
    exact ⟨(Bool.and_eq_true_iff.1 counts).1, rfl⟩
  cases e with
  | begin t operation =>
    cases operation with
    | submit order clientId =>
      obtain ⟨fault, hfault⟩ := Option.isSome_iff_exists.1 refused
      have ht : T t = true := hT
      by_cases new : d'.task? t = none ∧ d'.shared.call? t = none
      · rw [step_of_fault hvenue new.1 new.2 hfault clientId]
        apply SameBut.setTask_right _ ht
        apply h.withSequence_right
        intro counts
        obtain ⟨counts, generates⟩ := Bool.and_eq_true_iff.1 counts
        rw [Bool.not_eq_true'] at generates
        exact ⟨counts, by rw [generates]; rfl⟩
      · rw [Desk.step, begin.eq_def]
        split
        next fresh unasked => exact absurd ⟨fresh, unasked⟩ new
        next => exact rests
    | cancel => cases refused
    | reconcile => cases refused
  | _ => cases refused

/-- What an event shows is about the tickets of the set exactly if the event is. -/
theorem filter_shown (d : Desk) (e : DeskEvent) :
  (d.step e).2.filter (fun x => !T x.ticket) = if e.isAbout T then [] else (d.step e).2
  := by
  have about {x : DeskEffect} (hx : x ∈ (d.step e).2) : T x.ticket = e.isAbout T := by
    rw [DeskEvent.isAbout, ticket?_of_shown hx]
    rfl
  split
  next hT =>
    rw [List.filter_eq_nil_iff]
    intro x hx
    rw [about hx, hT]
    decide
  next hT =>
    rw [List.filter_eq_self]
    intro x hx
    rw [about hx, Bool.eq_false_iff.2 hT]
    rfl

/-- A run shows the same without submissions of orders that something is wrong with, if none of
these takes an id before another submission has one generated. -/
theorem SameBut.run (h : SameBut T counted d d') (hvenue : d'.venue = venue)
    (refused : ∀ e ∈ events, e.isAbout T = true → venue.refuses e = true)
    (uncounted : counted = false → ∀ e ∈ events, e.generatesId = true → e.isAbout T = true)
    (ordered : events.Pairwise (DeskEvent.Defers T)) :
  let kept := events.filter fun e => !e.isAbout T
  (d'.shown events).filter (fun x => !T x.ticket) = d.shown kept
  ∧ SameBut T (counted && !events.any fun e => e.isAbout T && e.generatesId) (d.after kept)
      (d'.after events)
  := by
  induction events generalizing d d' counted with
  | nil =>
    refine ⟨rfl, ?_⟩
    rw [List.any_nil, Bool.not_false, Bool.and_true]
    exact h
  | cons e events ih =>
    rw [List.forall_mem_cons] at refused
    rw [List.pairwise_cons] at ordered
    have hvenue' : (d'.step e).1.venue = venue := (d'.venue_step e).trans hvenue
    have later : counted = false → ∀ e ∈ events, e.generatesId = true → e.isAbout T = true := by
      intro hcounted e' hmem
      exact uncounted hcounted e' (List.mem_cons_of_mem e hmem)
    intro kept
    rw [shown_cons, List.filter_append, filter_shown, after_cons, List.any_cons]
    by_cases hT : e.isAbout T = true
    · have hkept : kept = events.filter fun e => !e.isAbout T := by
        simp only [kept, List.filter_cons, hT, Bool.not_true, Bool.false_eq_true, if_false]
      rw [hkept, hT, if_pos rfl, List.nil_append, Bool.true_and, Bool.not_or, ← Bool.and_assoc]
      apply ih (h.refused hvenue hT (refused.1 hT)) hvenue' refused.2 _ ordered.2
      intro hcounted
      obtain hcounted | generates := Bool.and_eq_false_iff.1 hcounted
      · exact later hcounted
      · intro e' hmem
        exact ordered.1 e' hmem hT (by simpa using generates)
    · rw [Bool.not_eq_true] at hT
      have hkept : kept = e :: events.filter fun e => !e.isAbout T := by
        simp only [kept, List.filter_cons, hT, Bool.not_false, if_true]
      have hid : counted = true ∨ e.generatesId = false := by
        rcases generates : e.generatesId with _ | _
        · exact .inr rfl
        · left
          by_contra hcounted
          have about := uncounted (Bool.eq_false_iff.2 hcounted) e List.mem_cons_self generates
          cases hT.symm.trans about
      obtain ⟨hsame, hshown⟩ := h.step hT hid
      obtain ⟨hrest, hafter⟩ := ih hsame hvenue' refused.2 later ordered.2
      rw [hkept, hT, shown_cons, after_cons, Bool.false_and, Bool.false_or]
      refine ⟨?_, hafter⟩
      rw [if_neg Bool.false_ne_true, hshown, hrest]

/-- Invalid orders change nothing but the next id.  After every run of events at a desk, a
submission fails for an invalid order exactly if it begins with an order that something is wrong
with, and as it begins: everything but its own task is as it was then, and nothing is asked for,
called, remembered or audited, except that it has taken an id if it comes without one and its order
is complete.  The rest of the run is that of a desk at which it has not begun, with the id taken.
So a run with any number of such submissions shows what it shows without them and leaves the other
tasks and all that they share as they are without them, if none of these submissions takes an id
before another one has one generated. -/
theorem invalid_orders_change_nothing_but_the_next_id (venue : Venue) (retry : RetryConfig)
    (limiter : RateLimiter) (token : Option Bool) (before : List DeskEvent) :
  let d := (opened venue retry limiter token).after before
  (∀ e t fault, .finished t (.error (.fatal (.invalidOrder fault))) ∈ (d.step e).2
    ↔ d.task? t = none ∧ ∃ order clientId, e = .begin t (.submit order clientId)
      ∧ venue.fault? order = some fault)
  ∧ (∀ e t fault, .finished t (.error (.fatal (.invalidOrder fault))) ∈ (d.step e).2 →
      let result : Result := .error (.fatal (.invalidOrder fault))
      let d' := { d with sequence := if e.generatesId then d.sequence + 1 else d.sequence }
      d.step e = (d'.setTask t (.finished result), [.finished t result])
      ∧ ∀ later, (∀ e ∈ later, e.ticket? ≠ some t) → (d.step e).1.shown later = d'.shown later)
  ∧ ∀ T events, (∀ e ∈ events, e.isAbout T = true → venue.refuses e = true) →
      events.Pairwise (DeskEvent.Defers T) →
        let kept := events.filter fun e => !e.isAbout T
        (d.shown events).filter (fun x => !T x.ticket) = d.shown kept
        ∧ SameBut T (!events.any fun e => e.isAbout T && e.generatesId) (d.after kept)
            (d.after events)
  := by
  intro d
  have hd : d.Coupled := (coupled_opened venue retry limiter token).after before
  have hvenue : d.venue = venue := venue_after _ before
  have faulty {e : DeskEvent} {t : Ticket} {fault : OrderFault}
      (h : .finished t (.error (.fatal (.invalidOrder fault))) ∈ (d.step e).2) :
      ∃ order clientId, e = .begin t (.submit order clientId) ∧ d.task? t = none
        ∧ venue.fault? order = some fault := by
    have warranted := warranted_after venue retry limiter token (before ++ [e])
    rw [after_append] at warranted
    exact fault?_of_finished hvenue warranted hd h
  refine ⟨?_, ?_, ?_⟩
  · intro e t fault
    constructor
    · intro h
      obtain ⟨order, clientId, rfl, fresh, hfault⟩ := faulty h
      exact ⟨fresh, order, clientId, rfl, hfault⟩
    · rintro ⟨fresh, order, clientId, rfl, hfault⟩
      rw [step_of_fault hvenue fresh (hd.call_of_fresh fresh) hfault clientId]
      exact List.mem_cons_self
  · intro e t fault h result d'
    obtain ⟨order, clientId, rfl, fresh, hfault⟩ := faulty h
    have hstep := step_of_fault hvenue fresh (hd.call_of_fresh fresh) hfault clientId
    refine ⟨hstep, ?_⟩
    intro later apart
    rw [hstep]
    have ended : SameBut (fun u => decide (u = t)) true d' (d'.setTask t (.finished result)) :=
      SameBut.setTask_right (.refl _ true d') (decide_eq_true rfl) _
    apply ended.shown
    intro e hmem
    have other := apart e hmem
    rw [DeskEvent.isAbout]
    cases hticket : e.ticket? with
    | none => rfl
    | some u =>
      rw [hticket] at other
      exact decide_eq_false fun heq => other (congrArg some heq)
  · intro T events refused ordered
    have h := (SameBut.refl T true d).run hvenue refused (by rintro ⟨⟩) ordered
    rw [Bool.true_and] at h
    exact h

/-- Two orders are called at Alpaca with generated ids, and between them an order for nothing and
one with the reserved extra are turned down, the second one under its own id, and after them another
one that has an id generated: the calls are shown as they are without these. -/
theorem orders_are_called_among_invalid_ones :
  let order : Order := .market "BTC" .buy ⟨false, 1, 0, by decide, by decide⟩
  let empty : Order := .market "BTC" .buy ⟨false, 0, 0, by decide, by decide⟩
  let reserved := order.withExtra "client_order_id" .null
  let request (k : UInt64) :=
    (Venue.alpaca.buildRequest (.generated "alpaca" k) order).toOption.getD .empty
  let events : List DeskEvent := [
    .begin "a" (.submit order none), .begin "b" (.submit empty none), .resume "a" 0,
    .begin "c" (.submit reserved (some ⟨"x"⟩)), .begin "d" (.submit order none), .resume "d" 0,
    .begin "e" (.submit reserved none)]
  let T (t : Ticket) := ["b", "c", "e"].contains t
  let start := opened Venue.alpaca (.immediate 1) ⟨.perSecond 9, by decide, []⟩ none
  (∀ e ∈ events, e.isAbout T = true → Venue.alpaca.refuses e = true)
  ∧ events.Pairwise (DeskEvent.Defers T)
  ∧ (start.shown events).filter (fun x => !T x.ticket)
    = [.admitted "a" 0, .called "a" (.submit (request 1)), .admitted "d" 0,
        .called "d" (.submit (request 2))]
  ∧ .finished "b" (.error (.fatal (.invalidOrder (.incomplete .buy .market empty.quantity "BTC"))))
      ∈ (start.step (.begin "b" (.submit empty none))).2
  ∧ (start.step (.begin "b" (.submit empty none))).1.shown [.begin "a" (.submit order none)]
    = start.shown [.begin "a" (.submit order none)]
  := by
  intro order empty reserved request events T start
  have refused : ∀ e ∈ events, e.isAbout T = true → Venue.alpaca.refuses e = true := by
    decide +kernel
  have ordered : events.Pairwise (DeskEvent.Defers T) := by decide +kernel
  obtain ⟨-, hstep, hrun⟩ := invalid_orders_change_nothing_but_the_next_id .alpaca (.immediate 1)
    ⟨.perSecond 9, by decide, []⟩ none []
  have failed : .finished "b" (.error (.fatal (.invalidOrder (.incomplete .buy .market
      empty.quantity "BTC")))) ∈ (start.step (.begin "b" (.submit empty none))).2 := by
    decide +kernel
  refine ⟨refused, ordered, ?_, failed, ?_⟩
  · apply (hrun T events refused ordered).1.trans
    decide +kernel
  · exact (hstep _ "b" _ failed).2 _ (by decide +kernel)

/-- At Alpaca an order with the reserved extra that comes without an id is turned down, and the next
order is called with the second generated id, where it has the first one if nothing has been
submitted before it. -/
theorem order_with_reserved_extra_takes_an_id :
  let order : Order := .market "BTC" .buy ⟨false, 1, 0, by decide, by decide⟩
  let reserved := order.withExtra "client_order_id" .null
  let request (k : UInt64) :=
    (Venue.alpaca.buildRequest (.generated "alpaca" k) order).toOption.getD .empty
  let rejected : DeskEvent := .begin "a" (.submit reserved none)
  let events : List DeskEvent := [.begin "b" (.submit order none), .resume "b" 0]
  let start := opened Venue.alpaca (.immediate 1) ⟨.perSecond 9, by decide, []⟩ none
  (start.step rejected).2
    = [.finished "a" (.error (.fatal (.invalidOrder (.reservedExtra "client_order_id"))))]
  ∧ start.shown events = [.admitted "b" 0, .called "b" (.submit (request 1))]
  ∧ (start.step rejected).1.shown events = [.admitted "b" 0, .called "b" (.submit (request 2))]
  ∧ request 2 ≠ request 1
  := by
  decide +kernel

end Desk

end OrderDesk
