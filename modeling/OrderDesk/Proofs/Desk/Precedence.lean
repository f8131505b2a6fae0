import OrderDesk.Proofs.Desk.Answers
import OrderDesk.Proofs.Desk.History
import OrderDesk.Proofs.Venue.Responses

/-!
# Only accepted orders are cancelled

A cancel begins with the response that is cached for its order, and as long as no response is put
in place from outside, an id has one exactly if the venue has accepted an order under it.  So the
calls that cancel an order come after its acceptance, and a cancel under any other id is turned
down, as is one whose cached response does not name the order for a venue that needs that.
-/

namespace OrderDesk

namespace Desk

variable {d : Desk} {t : Ticket} {id : ClientId} {venue : Venue} {history : List Grant}
  {events : List DeskEvent}

/-! ### Cancels under way -/

/-- A call that cancels an order is made by a task that cancels it. -/
theorem cancelling_of_called {e : DeskEvent} {target : CancelTarget}
    (h : .called t (.cancel target) ∈ (d.step e).2) :
  ∃ id n, d.task? t = some (.cancelling id target (.ready n))
  := by
  obtain ⟨task, n, htask, hstage, made, -⟩ := task?_of_called h
  obtain ⟨id, rfl⟩ := cancelling_of_venueCall? hstage made
  exact ⟨id, n, htask⟩

/-- Every cancel under way is for the order that its target names. -/
def Addressed (d : Desk) : Prop :=
  ∀ t id target stage, d.task? t = some (.cancelling id target stage) → target.clientId = id

theorem Addressed.step (h : d.Addressed) (hvenue : d.venue = venue) (e : DeskEvent) :
  (d.step e).1.Addressed
  := by
  intro t id target stage htask
  obtain ⟨stage', hbefore⟩ | ⟨response, -, named⟩ := cancelling_of_step htask
  · exact h t id target stage' hbefore
  · rw [hvenue] at named
    exact Venue.clientId_of_cancelTarget named

/-- The target of a cancel at one of the venues names the order that is cancelled. -/
theorem addressed_after (venue : Venue) (retry : RetryConfig) (limiter : RateLimiter)
    (token : Option Bool) (events : List DeskEvent) :
  ((opened venue retry limiter token).after events).Addressed
  := by
  have hopened : (opened venue retry limiter token).Addressed := by
    intro t id target stage htask
    cases htask
  refine (after_induction (motive := fun d => d.venue = venue ∧ d.Addressed) ?_ ⟨rfl, hopened⟩).2
  rintro e - d ⟨hvenue, addressed⟩
  exact ⟨(venue_step d e).trans hvenue, addressed.step hvenue e⟩

/-! ### Accepted orders -/

/-- An id has a response in the cache exactly if the venue has accepted an order under it. -/
theorem Recorded.isSome_get?_iff (h : d.Recorded history) (id : ClientId) :
  (d.cache.get? id).isSome ↔ ∃ u request response, .accepted u id request response ∈ history
  := by
  rw [Cache.get?, Option.isSome_map]
  apply (h.stores id).isSome_iff

/-- Only accepted orders are cancelled.  After every run of events at a desk in which no response is
replaced from outside, a call that cancels an order is made only if the venue has accepted an order
under its id before.  A cancel that begins then under an id that no order has been accepted under is
turned down as unknown.  If one has been accepted, the cancel goes by the response that is cached
under the id: for a venue that needs its own order id and finds none in the response it is turned
down for that, and otherwise it gets under way.  A cancel that is turned down asks for no permit,
calls nothing and leaves the cache and the audit log as they were. -/
theorem only_accepted_orders_are_cancelled (venue : Venue) (retry : RetryConfig)
    (limiter : RateLimiter) (token : Option Bool) (events : List DeskEvent)
    (operations : ∀ id response, .update id response ∉ events) :
  let d := (opened venue retry limiter token).after events
  let history := (opened venue retry limiter token).grants events
  (∀ e t target, .called t (.cancel target) ∈ (d.step e).2 →
    ∃ u request response, .accepted u target.clientId request response ∈ history)
  ∧ ∀ t id, d.task? t = none →
      let p := d.step (.begin t (.cancel id))
      ((∀ u request response, .accepted u id request response ∉ history) →
        d.TurnedDown t (.fatal (.unknownClientId id)) p)
      ∧ ∀ u request response, .accepted u id request response ∈ history →
          ∃ cached, d.cache.get? id = some cached
            ∧ (venue.NeedsOrderId → cached.firstId? venue.orderIdPaths = none →
                d.TurnedDown t (.fatal (.missingVenueOrderId id)) p)
            ∧ (¬(venue.NeedsOrderId ∧ cached.firstId? venue.orderIdPaths = none) →
                ∃ target, venue.cancelTarget id cached = .ok target ∧ target.clientId = id
                  ∧ p = (d.setTask t (.cancelling id target .start), []))
  := by
  intro d history
  have recorded : d.Recorded history :=
    (recorded_opened venue retry limiter token).after operations
  have hvenue : d.venue = venue := venue_after _ events
  constructor
  · intro e t target called
    obtain ⟨id, n, htask⟩ := cancelling_of_called called
    have addressed : target.clientId = id :=
      addressed_after venue retry limiter token events t id target _ htask
    obtain ⟨entry, slot⟩ := recorded.cancels _ _ _ _ htask
    rw [addressed, ← recorded.isSome_get?_iff, Cache.get?, cache, Cache.entry?_eq_some.2 slot]
    rfl
  · intro t id fresh p
    have unasked := recorded.coupled.call_of_fresh fresh
    constructor
    · intro unaccepted
      apply turnedDown_of_unknown fresh unasked
      rw [← Option.not_isSome_iff_eq_none, recorded.isSome_get?_iff]
      rintro ⟨u, request, response, hmem⟩
      exact unaccepted u request response hmem
    · intro u request response hmem
      obtain ⟨cached, hcached⟩ := Option.isSome_iff_exists.1
        ((recorded.isSome_get?_iff id).2 ⟨u, request, response, hmem⟩)
      refine ⟨cached, hcached, ?_, ?_⟩
      · intro needs missing
        apply turnedDown_of_untargeted fresh unasked hcached
        rw [hvenue]
        exact Venue.cancelTarget_eq_error.2 ⟨needs, missing, rfl⟩
      · intro usable
        rcases named : venue.cancelTarget id cached with failure | target
        · obtain ⟨needs, missing, -⟩ := Venue.cancelTarget_eq_error.1 named
          exact absurd ⟨needs, missing⟩ usable
        · refine ⟨target, rfl, Venue.clientId_of_cancelTarget named, ?_⟩
          apply step_cancel_of_targeted fresh unasked hcached
          rw [hvenue]
          exact named

/-- OANDA has accepted two orders, one of them with its own order id in the response, while a third
one is under way: the cancel of the first one calls OANDA, and those of the other two are turned
down. -/
theorem accepted_order_without_venue_id_is_not_cancelled :
  let order : Order := .market "EUR" .buy ⟨false, 1, 0, by decide, by decide⟩
  let target : CancelTarget := ⟨⟨"x"⟩, some "7", none⟩
  let events : List DeskEvent := [
    .begin "a" (.submit order (some ⟨"x"⟩)), .resume "a" 0,
    .accepted "a" (Payload.empty.insert "id" (.str "7")), .begin "b" (.submit order (some ⟨"y"⟩)),
    .resume "b" 0, .accepted "b" .empty, .begin "c" (.submit order (some ⟨"z"⟩)), .resume "c" 0,
    .begin "d" (.cancel ⟨"x"⟩)]
  let d := (opened Venue.oanda (.immediate 1) ⟨.perSecond 9, by decide, []⟩ none).after events
  (∀ id response, .update id response ∉ events)
  ∧ .called "d" (.cancel target) ∈ (d.step (.resume "d" 0)).2
  ∧ d.TurnedDown "e" (.fatal (.missingVenueOrderId ⟨"y"⟩)) (d.step (.begin "e" (.cancel ⟨"y"⟩)))
  ∧ d.TurnedDown "e" (.fatal (.unknownClientId ⟨"z"⟩)) (d.step (.begin "e" (.cancel ⟨"z"⟩)))
  := by
  intro order target events d
  let start := opened Venue.oanda (.immediate 1) ⟨.perSecond 9, by decide, []⟩ none
  let request (id : ClientId) := (Venue.oanda.buildRequest id order).toOption.getD .empty
  have operations : ∀ id response, .update id response ∉ events := by
    intro id response
    simp [events]
  have fresh : d.task? "e" = none := by decide +kernel
  have hgrants : start.grants events = [
      .accepted "a" ⟨"x"⟩ (request ⟨"x"⟩) (Payload.empty.insert "id" (.str "7")),
      .accepted "b" ⟨"y"⟩ (request ⟨"y"⟩) .empty] := by decide +kernel
  obtain ⟨-, hcancel⟩ := only_accepted_orders_are_cancelled Venue.oanda (.immediate 1)
    ⟨.perSecond 9, by decide, []⟩ none events operations
  rw [hgrants] at hcancel
  obtain ⟨cached, hcached, hmissing, -⟩ := (hcancel "e" ⟨"y"⟩ fresh).2 "b" (request ⟨"y"⟩) .empty
    (by simp)
  have unnamed : cached.firstId? Venue.oanda.orderIdPaths = none := by
    have h : (d.cache.get? ⟨"y"⟩ >>= (Payload.firstId? · Venue.oanda.orderIdPaths)) = none := by
      decide +kernel
    rw [hcached] at h
    exact h
  refine ⟨operations, by decide +kernel, hmissing nofun unnamed, ?_⟩
  apply (hcancel "e" ⟨"z"⟩ fresh).1
  simp

end Desk

end OrderDesk
