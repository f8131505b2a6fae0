import OrderDesk.Proofs.Desk.Replay
import OrderDesk.Proofs.Venue.Requests

/-!
# Changed orders are conflicts as far as the venue is told of the change

While an order is under way or accepted under an id, a submission under the id of an order that is
put to the venue as another request is a conflict.  Requests of complete orders differ exactly if
the orders differ in something that the venue is told.  That leaves out the time in force at CCXT,
and the stop price at OANDA if there is a limit price; the other prices that an order needs reach
the venue.
-/

namespace OrderDesk

namespace Desk

variable {d : Desk} {t : Ticket} {id : ClientId} {request response : Payload}
  {events : List DeskEvent}

/-- The id is in use for the request. -/
def IsUsedFor (d : Desk) (id : ClientId) (request : Payload) : Prop :=
  ∃ slot, d.cache.slot? id = some slot ∧ slot.fingerprint = .of request

/-- A submission that calls the venue uses its id. -/
theorem isUsedFor_of_submitting (hd : d.Coupled) {stage : RetryStage}
    (htask : d.task? t = some (.submitting id request stage)) :
  d.IsUsedFor id request
  := ⟨_, hd.sound.slot (hd.call_of_submitting htask), rfl⟩

/-- An accepted order uses its id. -/
theorem isUsedFor_of_accepted (hd : d.Coupled)
    (hmem : .accepted t id request response ∈ d.grants events) :
  (d.after events).IsUsedFor id request
  := by
  obtain ⟨cached, hcached⟩ := entry?_of_accepted hd hmem
  exact ⟨_, Cache.entry?_eq_some.1 hcached, rfl⟩

/-- A submission under an id that is in use for another request is a conflict. -/
theorem IsUsedFor.concludes (h : d.IsUsedFor id request) (fresh : d.task? t = none)
    (unasked : d.shared.call? t = none) {order : Order} (complete : order.isComplete = true)
    {request' : Payload} (built : d.venue.buildRequest id order = .ok request')
    (hne : request ≠ request') :
  d.Concludes t (.error (.fatal (.orderConflict id))) (d.step (.begin t (.submit order (some id))))
  := by
  obtain ⟨slot, hslot, hfingerprint⟩ := h
  have differs : slot.fingerprint ≠ .of request' := by
    rw [hfingerprint]
    exact hne ∘ Fingerprint.of_inj.1
  have built' : d.venue.buildRequest (d.resolveId (some id)).2 order = .ok request' := built
  exact concludes_of_conflict fresh unasked complete built' hslot differs

/-- Requests tell what was ordered, up to what the venue is not told.  Complete orders whose extras
have none of the names that the venue's profile writes can be put to the venue, and they are the
same request exactly if they go out under the same id and are alike in all that the venue is told:
then they agree on symbol, side, quantity and order type, on a time in force that both of them state
unless the venue is CCXT, on a limit price that they need, and on the stop price unless it has to
give way to a limit price.  The limit price that an order needs reaches the venue, and so does the
stop price unless it has to give way.  While an order is under way or accepted under an id, a
submission under the id of an order that is not alike is a conflict. -/
theorem requests_tell_orders_up_to_what_is_sent (venue : Venue) :
  (∀ i j a b, a.isComplete = true → b.isComplete = true → venue.SparedBy a → venue.SparedBy b →
    (∃ request, venue.buildRequest i a = .ok request)
    ∧ (venue.buildRequest i a = venue.buildRequest j b ↔ i = j ∧ venue.Alike a b)
    ∧ (venue.Alike a b →
        a.symbol = b.symbol ∧ a.side = b.side ∧ a.quantity = b.quantity
        ∧ a.orderType = b.orderType
        ∧ (venue ≠ .ccxt → ∀ t t', a.timeInForce = some t → b.timeInForce = some t' → t = t')
        ∧ (a.orderType.needsLimitPrice = true → a.limitPrice = b.limitPrice)
        ∧ (venue.HasStopPlace a → venue.HasStopPlace b → a.stopPrice = b.stopPrice)))
  ∧ (∀ id o request, o.isComplete = true → venue.SparedBy o →
      venue.buildRequest id o = .ok request →
      (o.orderType.needsLimitPrice = true → ∃ price, o.limitPrice = some price
        ∧ request.lookup? venue.limitPricePath = some price.toValue)
      ∧ (o.orderType.needsStopPrice = true → venue.HasStopPlace o → ∃ price,
          o.stopPrice = some price ∧ request.lookup? venue.stopPricePath = some price.toValue))
  ∧ ∀ retry limiter token events id a b request u,
      let start := opened venue retry limiter token
      let d := start.after events
      a.isComplete = true → b.isComplete = true → venue.SparedBy a → venue.SparedBy b →
      venue.buildRequest id a = .ok request →
      ((∃ t stage, d.task? t = some (.submitting id request stage))
        ∨ ∃ t response, .accepted t id request response ∈ start.grants events) →
      ¬venue.Alike a b → d.task? u = none →
        d.Concludes u (.error (.fatal (.orderConflict id)))
          (d.step (.begin u (.submit b (some id))))
  := by
  refine ⟨?_, ?_, ?_⟩
  · intro i j a b completea completeb spareda sparedb
    refine ⟨Venue.exists_buildRequest spareda i,
      Venue.buildRequest_inj completea completeb spareda sparedb, ?_⟩
    intro h
    refine ⟨h.symbol, h.side, h.quantity, h.orderType, ?_, ?_, ?_⟩
    · intro told t t' ha hb
      exact h.timeInForce_eq told ha hb
    · exact h.limitPrice_eq completea completeb
    · exact h.stopPrice_eq
  · intro id o request complete spared built
    exact ⟨Venue.limitPrice_reaches built complete spared,
      Venue.stopPrice_reaches built complete spared⟩
  · intro retry limiter token events id a b request u start d completea completeb spareda sparedb
      built used unlike fresh
    have hstart : start.Coupled := coupled_opened venue retry limiter token
    have hd : d.Coupled := hstart.after events
    have hvenue : d.venue = venue := venue_after _ events
    obtain ⟨request', built'⟩ := Venue.exists_buildRequest sparedb id
    have differs : request ≠ request' := by
      rintro rfl
      have same := (Venue.buildRequest_inj completea completeb spareda sparedb).1
        (built.trans built'.symm)
      exact unlike same.2
    have isUsedFor : d.IsUsedFor id request := by
      obtain ⟨t, stage, htask⟩ | ⟨t, response, hmem⟩ := used
      · exact isUsedFor_of_submitting hd htask
      · exact isUsedFor_of_accepted hstart hmem
    apply isUsedFor.concludes fresh (hd.call_of_fresh fresh) completeb _ differs
    rw [hvenue]
    exact built'

/-- A stop order at OANDA is under way, and one with another stop price is submitted under its id:
that is a conflict. -/
theorem changed_stop_price_is_conflict :
  let id : ClientId := ⟨"x"⟩
  let price : Decimal := ⟨false, 12, 1, by decide, by decide⟩
  let price' : Decimal := ⟨false, 13, 1, by decide, by decide⟩
  let order : Order := .new "EUR_USD" .buy .stop ⟨false, 1, 0, by decide, by decide⟩
  let a := order.withStopPrice price
  let b := order.withStopPrice price'
  let request := (Venue.oanda.buildRequest id a).toOption.getD .empty
  let events : List DeskEvent := [.begin "a" (.submit a (some id)), .resume "a" 0]
  let d := (opened Venue.oanda (.immediate 1) ⟨.perSecond 9, by decide, []⟩ none).after events
  a.isComplete = true ∧ b.isComplete = true ∧ Venue.oanda.SparedBy a ∧ Venue.oanda.SparedBy b
  ∧ Venue.oanda.buildRequest id a = .ok request
  ∧ d.task? "a" = some (.submitting id request (.running 0)) ∧ ¬Venue.oanda.Alike a b
  ∧ request.lookup? Venue.oanda.stopPricePath = some price.toValue
  ∧ d.Concludes "b" (.error (.fatal (.orderConflict id)))
      (d.step (.begin "b" (.submit b (some id))))
  := by
  intro id price price' order a b request events d
  have spareda : Venue.oanda.SparedBy a := fun _ _ => rfl
  have sparedb : Venue.oanda.SparedBy b := fun _ _ => rfl
  have built : Venue.oanda.buildRequest id a = .ok request := by decide +kernel
  have under_way : d.task? "a" = some (.submitting id request (.running 0)) := by decide +kernel
  obtain ⟨hsame, hreaches, hconflict⟩ := requests_tell_orders_up_to_what_is_sent .oanda
  have unlike : ¬Venue.oanda.Alike a b := by
    intro h
    obtain ⟨-, -, -, -, -, -, hstop⟩ := (hsame id id a b rfl rfl spareda sparedb).2.2 h
    have hprices : some price = some price' := hstop (fun _ => rfl) (fun _ => rfl)
    exact absurd hprices (by decide)
  obtain ⟨_, hprice, hlookup⟩ := (hreaches id a request rfl spareda built).2 rfl (fun _ => rfl)
  cases hprice
  refine ⟨rfl, rfl, spareda, sparedb, built, under_way, unlike, hlookup, ?_⟩
  exact hconflict (.immediate 1) ⟨.perSecond 9, by decide, []⟩ none events id a b request "b" rfl
    rfl spareda sparedb built (.inl ⟨"a", .running 0, under_way⟩) unlike (by decide +kernel)

/-- Two stop-limit orders with different stop prices are the same request at OANDA, a stop order
that has a limit price goes there with that in place of its stop price, and two orders with
different times in force are the same request at CCXT. -/
theorem different_orders_are_one_request :
  let id : ClientId := ⟨"x"⟩
  let one : Decimal := ⟨false, 1, 0, by decide, by decide⟩
  let price : Decimal := ⟨false, 12, 1, by decide, by decide⟩
  let price' : Decimal := ⟨false, 13, 1, by decide, by decide⟩
  let stopLimit := (Order.new "EUR_USD" .buy .stopLimit one).withLimitPrice price
  let a := stopLimit.withStopPrice price
  let b := stopLimit.withStopPrice price'
  let stop := ((Order.new "EUR_USD" .buy .stop one).withLimitPrice price).withStopPrice price'
  let market := Order.market "BTC/USDT" .buy one
  let a' := market.withTimeInForce .immediateOrCancel
  let b' := market.withTimeInForce .day
  (∀ o ∈ [a, b, stop], o.isComplete = true ∧ Venue.oanda.SparedBy o)
  ∧ a.stopPrice ≠ b.stopPrice
  ∧ (∃ request, Venue.oanda.buildRequest id a = .ok request
      ∧ Venue.oanda.buildRequest id b = .ok request)
  ∧ (∃ request, Venue.oanda.buildRequest id stop = .ok request
      ∧ request.lookup? Venue.oanda.stopPricePath = some price.toValue)
  ∧ (∀ o ∈ [a', b'], o.isComplete = true ∧ Venue.ccxt.SparedBy o)
  ∧ a'.timeInForce ≠ b'.timeInForce
  ∧ ∃ request, Venue.ccxt.buildRequest id a' = .ok request
      ∧ Venue.ccxt.buildRequest id b' = .ok request
  := by
  intro id one price price' stopLimit a b stop market a' b'
  have spared (venue : Venue) (o : Order) (h : o.extras = .empty) : venue.SparedBy o := by
    intro key _
    rw [h]
    rfl
  refine ⟨?_, by decide, ⟨_, rfl, rfl⟩, ⟨_, rfl, by decide +kernel⟩, ?_, by decide, _, rfl, rfl⟩
  · simp only [List.forall_mem_cons, List.not_mem_nil, false_implies, implies_true, and_true]
    exact ⟨⟨rfl, spared _ a rfl⟩, ⟨rfl, spared _ b rfl⟩, rfl, spared _ stop rfl⟩
  · simp only [List.forall_mem_cons, List.not_mem_nil, false_implies, implies_true, and_true]
    exact ⟨⟨rfl, spared _ a' rfl⟩, rfl, spared _ b' rfl⟩

end Desk

end OrderDesk
