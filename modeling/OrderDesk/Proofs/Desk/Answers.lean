import OrderDesk.Proofs.Desk.Acceptance
import OrderDesk.Proofs.Desk.Frame

/-!
# Operations that end as they begin

A submission whose id is in use is answered by the cache in the step in which it begins, with the
response that the id stands for or with a conflict, unless it waits for another submission of the
same request.  A cancel that has no target is turned down.  Neither asks the rate limiter, calls the
venue or changes what the cache holds.
-/

namespace OrderDesk

/-- The fingerprint of the request that a slot is used for. -/
def Slot.fingerprint : Slot → Fingerprint
  | .pending fingerprint _ => fingerprint
  | .resolved entry => entry.fingerprint

/-- A call that asks for an id in use for another request is answered with a conflict. -/
theorem Cache.enter_of_fingerprint_ne {c : Cache} {id : ClientId} {slot : Slot}
    {fingerprint : Fingerprint} (h : c.slot? id = some slot) (hne : slot.fingerprint ≠ fingerprint)
    (ticket : Ticket) :
  c.enter ticket id fingerprint = (c, .answered (.error (.fatal (.orderConflict id))))
  := by
  cases slot with
  | pending pending channel => apply enter_of_conflict h hne
  | resolved entry =>
    have hne : entry.fingerprint ≠ fingerprint := hne
    rw [enter_of_resolved h, CacheEntry.answer, if_neg hne]

namespace Desk

variable {d : Desk} {t : Ticket} {id : ClientId} {request : Payload} {order : Order}
  {clientId : Option ClientId}

/-- An operation ends with a result as it begins: nothing else is shown, and the cache and the
limiter are as they were. -/
structure Concludes (d : Desk) (t : Ticket) (result : Result) (p : Desk × List DeskEffect) :
    Prop where
  shown : p.2 = [.finished t result]
  cache : p.1.cache = d.cache
  limiter : p.1.limiter = d.limiter

/-! ### Submissions -/

/-- A submission that the cache has an answer for returns it. -/
theorem concludes_of_answered (fresh : d.task? t = none) (unasked : d.shared.call? t = none)
    (complete : order.isComplete = true)
    (built : d.venue.buildRequest (d.resolveId clientId).2 order = .ok request) {outcome : Outcome}
    (answered : d.cache.enter t (d.resolveId clientId).2 (.of request)
      = (d.cache, .answered outcome)) :
  d.Concludes t (outcome.map fun response =>
      .response (d.venue.annotate (d.resolveId clientId).2 request response))
    (d.step (.begin t (.submit order clientId)))
  := by
  rw [cache] at answered
  have hcall : (d.shared.remember t (d.resolveId clientId).2 request).call? t
      = some ⟨(d.resolveId clientId).2, request, .returned outcome⟩ := by
    rw [call?_remember_of_unasked unasked, answered]
    rfl
  have hcache : (d.shared.remember t (d.resolveId clientId).2 request).cache = d.shared.cache := by
    rw [SharedCache.remember, unasked, SharedCache.ask, answered]
    rfl
  rw [step_submit fresh unasked complete built, followCall]
  simp only [hcall]
  cases outcome with
  | ok response => exact ⟨rfl, hcache, rfl⟩
  | error failure => exact ⟨rfl, hcache, rfl⟩

/-- A submission whose id is resolved is answered with what the id stands for. -/
theorem concludes_of_resolved (fresh : d.task? t = none) (unasked : d.shared.call? t = none)
    (complete : order.isComplete = true)
    (built : d.venue.buildRequest (d.resolveId clientId).2 order = .ok request)
    {entry : CacheEntry} (hentry : d.cache.entry? (d.resolveId clientId).2 = some entry) :
  d.Concludes t ((entry.answer (d.resolveId clientId).2 (.of request)).map fun response =>
      .response (d.venue.annotate (d.resolveId clientId).2 request response))
    (d.step (.begin t (.submit order clientId)))
  := by
  apply concludes_of_answered fresh unasked complete built
  apply Cache.enter_of_resolved
  exact Cache.entry?_eq_some.1 hentry

/-- A submission whose id is in use for another request is answered with a conflict. -/
theorem concludes_of_conflict (fresh : d.task? t = none) (unasked : d.shared.call? t = none)
    (complete : order.isComplete = true)
    (built : d.venue.buildRequest (d.resolveId clientId).2 order = .ok request) {slot : Slot}
    (hslot : d.cache.slot? (d.resolveId clientId).2 = some slot)
    (differs : slot.fingerprint ≠ .of request) :
  d.Concludes t (.error (.fatal (.orderConflict (d.resolveId clientId).2)))
    (d.step (.begin t (.submit order clientId)))
  := concludes_of_answered fresh unasked complete built
    (Cache.enter_of_fingerprint_ne hslot differs t)

/-- A submission whose id is in use for the same request waits for the one that uses it, as long as
that is under way. -/
theorem step_of_pending (fresh : d.task? t = none) (unasked : d.shared.call? t = none)
    (complete : order.isComplete = true)
    (built : d.venue.buildRequest (d.resolveId clientId).2 order = .ok request) {channel : Ticket}
    (hslot : d.cache.slot? (d.resolveId clientId).2 = some (.pending (.of request) channel)) :
  let p := d.step (.begin t (.submit order clientId))
  p.2 = [] ∧ p.1.task? t = some (.waiting (d.resolveId clientId).2 request)
  := by
  have hcall : (d.shared.remember t (d.resolveId clientId).2 request).call? t
      = some ⟨(d.resolveId clientId).2, request, .waiting channel⟩ := by
    rw [call?_remember_of_unasked unasked, ← cache, Cache.enter_of_pending hslot]
    rfl
  rw [step_submit fresh unasked complete built, followCall]
  simp only [hcall, task?_setTask, if_true, and_self]

/-- A submission whose id has no slot resolves it. -/
theorem step_of_free (fresh : d.task? t = none) (unasked : d.shared.call? t = none)
    (complete : order.isComplete = true)
    (built : d.venue.buildRequest (d.resolveId clientId).2 order = .ok request)
    (free : d.cache.slot? (d.resolveId clientId).2 = none) :
  let p := d.step (.begin t (.submit order clientId))
  p.2 = [] ∧ p.1.task? t = some (.submitting (d.resolveId clientId).2 request .start)
  := by
  have hcall : (d.shared.remember t (d.resolveId clientId).2 request).call? t
      = some ⟨(d.resolveId clientId).2, request, .resolving⟩ := by
    rw [call?_remember_of_unasked unasked, ← cache, Cache.enter_of_free free]
    rfl
  rw [step_submit fresh unasked complete built, followCall]
  simp only [hcall, task?_setTask, if_true, and_self]

/-- An id that has no entry and that no submission calls the venue for has no slot. -/
theorem slot?_eq_none (hd : d.Coupled) (unresolved : d.cache.entry? id = none)
    (idle : ∀ u request stage, d.task? u ≠ some (.submitting id request stage)) :
  d.cache.slot? id = none
  := by
  rcases hslot : d.cache.slot? id with _ | ⟨fingerprint, u⟩ | entry
  · rfl
  · obtain ⟨request, -, call⟩ := hd.sound.owner hslot
    have fits := hd.fits u
    rw [call] at fits
    generalize htask : d.task? u = task at fits
    cases fits with
    | submitting _ _ stage => exact absurd htask (idle u request stage)
  · rw [Cache.entry?_eq_some.2 hslot] at unresolved
    cases unresolved

/-! ### Cancels -/

theorem step_cancel (fresh : d.task? t = none) (unasked : d.shared.call? t = none)
    (id : ClientId) :
  d.step (.begin t (.cancel id)) = d.cancelOrder t id
  := by
  rw [step, begin, fresh, unasked]

/-- The cancel is turned down as it begins: the audit log is as it was, too. -/
structure TurnedDown (d : Desk) (t : Ticket) (failure : Failure) (p : Desk × List DeskEffect) :
    Prop where
  concludes : d.Concludes t (.error failure) p
  audit : p.1.audit = d.audit

theorem turnedDown_finish (d : Desk) (t : Ticket) (failure : Failure) :
  d.TurnedDown t failure (d.finish t (.error failure))
  := ⟨⟨rfl, rfl, rfl⟩, rfl⟩

/-- A cancel of an order that is not cached is turned down. -/
theorem turnedDown_of_unknown (fresh : d.task? t = none) (unasked : d.shared.call? t = none)
    (unknown : d.cache.get? id = none) :
  d.TurnedDown t (.fatal (.unknownClientId id)) (d.step (.begin t (.cancel id)))
  := by
  rw [step_cancel fresh unasked, cancelOrder, unknown]
  apply turnedDown_finish

/-- A cancel of a cached order whose response names no target is turned down. -/
theorem turnedDown_of_untargeted (fresh : d.task? t = none) (unasked : d.shared.call? t = none)
    {cached : Payload} (hcached : d.cache.get? id = some cached) {failure : Failure}
    (untargeted : d.venue.cancelTarget id cached = .error failure) :
  d.TurnedDown t failure (d.step (.begin t (.cancel id)))
  := by
  rw [step_cancel fresh unasked, cancelOrder, hcached]
  simp only [untargeted]
  apply turnedDown_finish

/-- A cancel of a cached order whose response names a target gets under way. -/
theorem step_cancel_of_targeted (fresh : d.task? t = none) (unasked : d.shared.call? t = none)
    {cached : Payload} (hcached : d.cache.get? id = some cached) {target : CancelTarget}
    (named : d.venue.cancelTarget id cached = .ok target) :
  d.step (.begin t (.cancel id)) = (d.setTask t (.cancelling id target .start), [])
  := by
  rw [step_cancel fresh unasked, cancelOrder, hcached]
  simp only [named]

end Desk

end OrderDesk
