import OrderDesk.Proofs.Desk.Resubmission
import OrderDesk.Proofs.Order.Building

/-!
# Orders may be built in any order

Two orders that were given the same values in the end are the same order, and so the same request
and the same fingerprint.  One of them that is submitted under the id of the other is answered from
the cache, or waits for the other one, and is no conflict.
-/

namespace OrderDesk

namespace Desk

variable {d : Desk} {t u : Ticket} {id : ClientId} {order : Order} {request : Payload}
  {events : List DeskEvent}

/-- The request of an accepted order is answered with the response that is stored for it. -/
theorem concludes_of_accepted (hd : d.Coupled) {response : Payload}
    (accepted : .accepted t id request response ∈ d.grants events)
    (fresh : (d.after events).task? u = none) (complete : order.isComplete = true)
    (built : d.venue.buildRequest id order = .ok request) :
  ∃ cached, (d.after events).cache.get? id = some cached
    ∧ (d.after events).Concludes u (.ok (.response (d.venue.annotate id request cached)))
      ((d.after events).step (.begin u (.submit order (some id))))
  := by
  have hafter : (d.after events).Coupled := hd.after events
  have hvenue : (d.after events).venue = d.venue := venue_after d events
  have built' : (d.after events).venue.buildRequest ((d.after events).resolveId (some id)).2 order
      = .ok request := by
    rw [hvenue]
    exact built
  obtain ⟨cached, hentry⟩ := entry?_of_accepted hd accepted
  have concludes := concludes_of_resolved fresh (hafter.call_of_fresh fresh) complete built' hentry
  rw [CacheEntry.answer_of, if_pos rfl, hvenue] at concludes
  exact ⟨cached, congrArg (Option.map CacheEntry.response) hentry, concludes⟩

/-- The request of an order under way waits for that order. -/
theorem waits_of_submitting (hd : d.Coupled) {stage : RetryStage}
    (underWay : d.task? t = some (.submitting id request stage)) (fresh : d.task? u = none)
    (complete : order.isComplete = true)
    (built : d.venue.buildRequest id order = .ok request) :
  let p := d.step (.begin u (.submit order (some id)))
  p.2 = [] ∧ p.1.task? u = some (.waiting id request)
  := by
  have hslot := hd.sound.slot (hd.call_of_submitting underWay)
  have built' : d.venue.buildRequest (d.resolveId (some id)).2 order = .ok request := built
  exact step_of_pending fresh (hd.call_of_fresh fresh) complete built' hslot

/-- Orders may be built in any order.  In the end an order has in every place the last value that it
was given.  So two sequences of steps that give the same last value to the time in force, to both
prices and to the extra under every name turn an order into the same order, and at every venue and
under every id the requests are the same, and their fingerprints.  If one of the orders has been
accepted under an id, the other one is answered with the response that is stored for it, and while
one of them is under way under an id, the other one waits for it. -/
theorem orders_are_what_they_were_last_given (o : Order) (steps steps' : List Order.Amendment)
    (same : Order.Amendment.SameLast steps steps') :
  let a := o.amended steps
  let b := o.amended steps'
  a.HoldsLast steps o
  ∧ a = b
  ∧ (∀ (venue : Venue) id, venue.buildRequest id a = venue.buildRequest id b
    ∧ (venue.buildRequest id a).map Fingerprint.of = (venue.buildRequest id b).map Fingerprint.of)
  ∧ ∀ (venue : Venue) retry limiter token events id request u,
      let start := opened venue retry limiter token
      let d := start.after events
      let p := d.step (.begin u (.submit b (some id)))
      a.isComplete = true → venue.buildRequest id a = .ok request → d.task? u = none →
        ((∃ t response, .accepted t id request response ∈ start.grants events) →
          ∃ cached, d.cache.get? id = some cached
            ∧ d.Concludes u (.ok (.response (venue.annotate id request cached))) p)
        ∧ ((∃ t stage, d.task? t = some (.submitting id request stage)) →
            p.2 = [] ∧ p.1.task? u = some (.waiting id request))
  := by
  intro a b
  have ha : a.HoldsLast steps o := o.holdsLast_amended steps
  have hab : a = b := ha.eq (o.holdsLast_amended steps') same
  refine ⟨ha, hab, ?_, ?_⟩
  · intro venue id
    rw [hab]
    exact ⟨rfl, rfl⟩
  · intro venue retry limiter token events id request u start d p complete built fresh
    have hstart : start.Coupled := coupled_opened venue retry limiter token
    rw [hab] at complete built
    constructor
    · rintro ⟨t, response, accepted⟩
      exact concludes_of_accepted hstart accepted fresh complete built
    · rintro ⟨t, stage, underWay⟩
      have hvenue : d.venue = venue := venue_after _ events
      apply waits_of_submitting (hstart.after events) underWay fresh complete
      rw [hvenue]
      exact built

/-- At Alpaca an order that was given its limit price twice is under way, and is then accepted.  An
order that was given the same values in the opposite order, and an extra twice, waits for it, and is
then answered. -/
theorem order_built_in_another_order_is_answered :
  let id : ClientId := ⟨"x"⟩
  let nine : Decimal := ⟨false, 9, 0, by decide, by decide⟩
  let ten : Decimal := ⟨false, 10, 0, by decide, by decide⟩
  let o := Order.new "BTC" .buy .limit ten
  let steps : List Order.Amendment := [
    .extra "a" (.int 1), .limitPrice nine, .extra "b" .null, .limitPrice ten, .timeInForce .day]
  let steps' : List Order.Amendment := [
    .timeInForce .day, .limitPrice ten, .extra "b" .null, .extra "a" (.int 7), .extra "a" (.int 1)]
  let a := o.amended steps
  let b := o.amended steps'
  let request := (Venue.alpaca.buildRequest id a).toOption.getD .empty
  let before : List DeskEvent := [.begin "a" (.submit a (some id)), .resume "a" 0]
  let events : List DeskEvent := before ++ [.accepted "a" .empty]
  let start := opened Venue.alpaca (.immediate 1) ⟨.perSecond 9, by decide, []⟩ none
  let d := start.after before
  let d' := start.after events
  Order.Amendment.SameLast steps steps' ∧ a.HoldsLast steps o ∧ a = b
  ∧ a.isComplete = true ∧ Venue.alpaca.buildRequest id a = .ok request
  ∧ d.task? "a" = some (.submitting id request (.running 0)) ∧ d.task? "b" = none
  ∧ (d.step (.begin "b" (.submit b (some id)))).1.task? "b" = some (.waiting id request)
  ∧ .accepted "a" id request .empty ∈ start.grants events ∧ d'.task? "b" = none
  ∧ ∃ cached, d'.cache.get? id = some cached
      ∧ d'.Concludes "b" (.ok (.response (Venue.alpaca.annotate id request cached)))
        (d'.step (.begin "b" (.submit b (some id))))
  := by
  intro id nine ten o steps steps' a b request before events start d d'
  have sameExtra (key : String) :
      Order.Amendment.last? (Order.Amendment.extra? key) steps
        = Order.Amendment.last? (Order.Amendment.extra? key) steps' := by
    by_cases ha : "a" = key
    · subst ha
      decide
    · by_cases hb : "b" = key
      · subst hb
        decide
      · simp [steps, steps', Order.Amendment.last?, Order.Amendment.extra?, List.findSome?, ha, hb]
  have same : Order.Amendment.SameLast steps steps' := ⟨rfl, rfl, rfl, sameExtra⟩
  have built : Venue.alpaca.buildRequest id a = .ok request := by decide +kernel
  have underWay : d.task? "a" = some (.submitting id request (.running 0)) := by decide +kernel
  have fresh : d.task? "b" = none := by decide +kernel
  have fresh' : d'.task? "b" = none := by decide +kernel
  have accepted : .accepted "a" id request .empty ∈ start.grants events := by decide +kernel
  obtain ⟨holds, hab, -, resubmitted⟩ := orders_are_what_they_were_last_given o steps steps' same
  have resubmitted := resubmitted .alpaca (.immediate 1) ⟨.perSecond 9, by decide, []⟩ none
  have waits := (resubmitted before id request "b" rfl built fresh).2 ⟨"a", _, underWay⟩
  have answered := (resubmitted events id request "b" rfl built fresh').1 ⟨"a", _, accepted⟩
  exact ⟨same, holds, hab, rfl, built, underWay, fresh, waits.2, accepted, fresh', answered⟩

end Desk

end OrderDesk
