import OrderDesk.Proofs.Desk.Conflicts
import OrderDesk.Proofs.Venue.Spelling

/-!
# Equal orders conflict only if they are written differently

An order that is submitted again under its id is the same one to the desk if it is put to the venue
as the same request.  So an equal order is answered from the cache, or waits for the first one, if
it is written like that; an order for `10.0` after one for `10` is a conflict.
-/

namespace OrderDesk

namespace Desk

variable {d : Desk} {t : Ticket} {id : ClientId} {request : Payload}

/-- Equal orders conflict only if they are written differently.  Of two orders that are equal, their
decimals and the numbers in their extras by value, both are complete or neither is; and they are put
to a venue under an id with the same result exactly if both have the reserved extra and are turned
down for it, or they are written alike: with the same extras and, in the decimals that the venue is
told, with as many digits behind the point and the same signs.  Once the venue has accepted an order
under an id, a complete order that is equal to it and submitted under the id is answered from the
cache if it is written alike, and is a conflict otherwise; while the first one is under way, it
waits for that if it is written alike, and is a conflict otherwise. -/
theorem equal_orders_conflict_only_if_written_differently (venue : Venue) :
  (∀ id a b, a.Equal b → a.isComplete = b.isComplete
    ∧ (venue.buildRequest id a = venue.buildRequest id b
      ↔ a.extras.contains venue.clientIdKey = true ∨ venue.WrittenAlike a b))
  ∧ ∀ retry limiter token events id a b request u,
      let start := opened venue retry limiter token
      let d := start.after events
      let p := d.step (.begin u (.submit b (some id)))
      a.Equal b → b.isComplete = true → venue.buildRequest id a = .ok request → d.task? u = none →
        ((∃ t response, .accepted t id request response ∈ start.grants events) →
          ∃ cached, d.cache.get? id = some cached
            ∧ d.Concludes u
                (if venue.WrittenAlike a b then .ok (.response (venue.annotate id request cached))
                else .error (.fatal (.orderConflict id))) p)
        ∧ ((∃ t stage, d.task? t = some (.submitting id request stage)) →
            if venue.WrittenAlike a b then p.2 = [] ∧ p.1.task? u = some (.waiting id request)
            else d.Concludes u (.error (.fatal (.orderConflict id))) p)
  := by
  constructor
  · intro id a b h
    exact ⟨h.isComplete_eq, Venue.buildRequest_eq_iff_of_equal h⟩
  · intro retry limiter token events id a b request u start d p h complete built fresh
    have hstart : start.Coupled := coupled_opened venue retry limiter token
    have hd : d.Coupled := hstart.after events
    have unasked := hd.call_of_fresh fresh
    have hvenue : d.venue = venue := venue_after _ events
    obtain ⟨request', builtb, halike⟩ := Venue.built_of_equal h built
    have built' : d.venue.buildRequest (d.resolveId (some id)).2 b = .ok request' := by
      rw [hvenue]
      exact builtb
    have conflict (used : d.IsUsedFor id request) (unlike : ¬venue.WrittenAlike a b) :
        d.Concludes u (.error (.fatal (.orderConflict id))) p := by
      apply used.concludes fresh unasked complete built'
      rintro rfl
      exact unlike (halike.1 rfl)
    constructor
    · rintro ⟨t, response, hmem⟩
      obtain ⟨cached, hentry⟩ := entry?_of_accepted hstart hmem
      refine ⟨cached, congrArg (Option.map CacheEntry.response) hentry, ?_⟩
      split
      next alike =>
        obtain rfl := halike.2 alike
        have concludes := concludes_of_resolved fresh unasked complete built' hentry
        rw [CacheEntry.answer_of, if_pos rfl, hvenue] at concludes
        exact concludes
      next unlike => exact conflict (isUsedFor_of_accepted hstart hmem) unlike
    · rintro ⟨t, stage, htask⟩
      split
      next alike =>
        obtain rfl := halike.2 alike
        have hslot := hd.sound.slot (hd.call_of_submitting htask)
        exact step_of_pending fresh unasked complete built' hslot
      next unlike => exact conflict (isUsedFor_of_submitting hd htask) unlike

/-- Three equal market orders for ten at CCXT, the second one with its limit price written
otherwise, which is not sent, and the third one with its quantity: while the first one is under way,
the second one waits for it and the third one is a conflict, and once it is accepted, the second one
is answered from the cache. -/
theorem equal_order_written_alike_is_answered :
  let id : ClientId := ⟨"x"⟩
  let ten : Decimal := ⟨false, 10, 0, by decide, by decide⟩
  let ten' : Decimal := ⟨false, 100, 1, by decide, by decide⟩
  let a := (Order.market "BTC" .buy ten).withLimitPrice ten
  let b := (Order.market "BTC" .buy ten).withLimitPrice ten'
  let c := (Order.market "BTC" .buy ten').withLimitPrice ten
  let request := (Venue.ccxt.buildRequest id a).toOption.getD .empty
  let before : List DeskEvent := [.begin "a" (.submit a (some id)), .resume "a" 0]
  let events : List DeskEvent := before ++ [.accepted "a" .empty]
  let start := opened Venue.ccxt (.immediate 1) ⟨.perSecond 9, by decide, []⟩ none
  let d := start.after before
  let d' := start.after events
  a.Equal b ∧ a.Equal c ∧ b.isComplete = true ∧ c.isComplete = true
  ∧ Venue.ccxt.buildRequest id a = .ok request
  ∧ d.task? "a" = some (.submitting id request (.running 0)) ∧ d.task? "b" = none
  ∧ (d.step (.begin "b" (.submit b (some id)))).1.task? "b" = some (.waiting id request)
  ∧ d.Concludes "b" (.error (.fatal (.orderConflict id)))
      (d.step (.begin "b" (.submit c (some id))))
  ∧ .accepted "a" id request .empty ∈ start.grants events ∧ d'.task? "b" = none
  ∧ ∃ cached, d'.cache.get? id = some cached
      ∧ d'.Concludes "b" (.ok (.response (Venue.ccxt.annotate id request cached)))
        (d'.step (.begin "b" (.submit b (some id))))
  := by
  intro id ten ten' a b c request before events start d d'
  have price : Decimal.SameValue ten ten' := by decide
  have same : Decimal.SameValue ten ten := by decide
  have equalb : a.Equal b := ⟨rfl, rfl, same, rfl, rfl, .some price, .none, trivial⟩
  have equalc : a.Equal c := ⟨rfl, rfl, price, rfl, rfl, .some same, .none, trivial⟩
  have built : Venue.ccxt.buildRequest id a = .ok request := by decide +kernel
  have underWay : d.task? "a" = some (.submitting id request (.running 0)) := by decide +kernel
  have fresh : d.task? "b" = none := by decide +kernel
  have fresh' : d'.task? "b" = none := by decide +kernel
  have accepted : .accepted "a" id request .empty ∈ start.grants events := by decide +kernel
  have alike : Venue.ccxt.WrittenAlike a b := by decide +kernel
  have unlike : ¬Venue.ccxt.WrittenAlike a c := by decide +kernel
  obtain ⟨-, resubmitted⟩ := equal_orders_conflict_only_if_written_differently .ccxt
  have resubmitted := resubmitted (.immediate 1) ⟨.perSecond 9, by decide, []⟩ none
  have waits := (resubmitted before id a b request "b" equalb rfl built fresh).2 ⟨"a", _, underWay⟩
  have conflict := (resubmitted before id a c request "b" equalc rfl built fresh).2
    ⟨"a", _, underWay⟩
  obtain ⟨cached, hcached, concludes⟩ :=
    (resubmitted events id a b request "b" equalb rfl built fresh').1 ⟨"a", _, accepted⟩
  rw [if_pos alike] at waits concludes
  rw [if_neg unlike] at conflict
  exact ⟨equalb, equalc, rfl, rfl, built, underWay, fresh, waits.2, conflict, accepted, fresh',
    cached, hcached, concludes⟩

/-- At every venue an order for `10` is accepted, and an equal one for `10.0` under its id is a
conflict; and two orders with the extras `0.0` and `-0.0` are different requests. -/
theorem equal_order_written_differently_is_conflict :
  let id : ClientId := ⟨"x"⟩
  let a := Order.market "BTC" .buy ⟨false, 10, 0, by decide, by decide⟩
  let b := Order.market "BTC" .buy ⟨false, 100, 1, by decide, by decide⟩
  let a' := a.withExtra "x" (.num (.double (.finite false .zero)))
  let b' := a.withExtra "x" (.num (.double (.finite true .zero)))
  let events : List DeskEvent := [
    .begin "a" (.submit a (some id)), .resume "a" 0, .accepted "a" .empty]
  a.Equal b ∧ a.isComplete = true ∧ b.isComplete = true
  ∧ (∀ venue : Venue,
      let d := (opened venue (.immediate 1) ⟨.perSecond 9, by decide, []⟩ none).after events
      venue.buildRequest id a ≠ venue.buildRequest id b
      ∧ d.Concludes "b" (.error (.fatal (.orderConflict id)))
        (d.step (.begin "b" (.submit b (some id)))))
  ∧ a'.Equal b' ∧ ∀ venue : Venue, venue.buildRequest id a' ≠ venue.buildRequest id b'
  := by
  intro id a b a' b' events
  have extras : a'.extras.Equal b'.extras := ⟨rfl, ⟨by decide, by decide⟩, trivial⟩
  refine ⟨⟨rfl, rfl, by decide, rfl, rfl, .none, .none, trivial⟩, rfl, rfl, ?_,
    ⟨rfl, rfl, by decide, rfl, rfl, .none, .none, extras⟩, ?_⟩
  · intro venue d
    let request (o : Order) := (venue.buildRequest id o).toOption.getD .empty
    have hstart := coupled_opened venue (.immediate 1) ⟨.perSecond 9, by decide, []⟩ none
    have hd : d.Coupled := hstart.after events
    have accepted : .accepted "a" id (request a) .empty
        ∈ (opened venue (.immediate 1) ⟨.perSecond 9, by decide, []⟩ none).grants events := by
      cases venue with
      | _ => decide +kernel
    have fresh : d.task? "b" = none := by
      cases venue with
      | _ => decide +kernel
    have differs : request a ≠ request b := by
      cases venue with
      | _ => decide +kernel
    have builta : venue.buildRequest id a = .ok (request a) := by
      cases venue with
      | _ => rfl
    have builtb : venue.buildRequest id b = .ok (request b) := by
      cases venue with
      | _ => rfl
    constructor
    · rw [builta, builtb]
      exact differs ∘ Except.ok.inj
    · apply (isUsedFor_of_accepted hstart accepted).concludes fresh (hd.call_of_fresh fresh) rfl _
        differs
      rw [venue_after]
      exact builtb
  · intro venue
    cases venue with
    | _ => decide +kernel

end Desk

end OrderDesk
