import OrderDesk.Proofs.Desk.Answers
import OrderDesk.Proofs.Desk.History
import OrderDesk.Proofs.Fingerprint.Identity
import OrderDesk.Proofs.Venue.Responses

/-!
# Submissions are replayed

Once the venue has accepted an order, its id stands for the request that was accepted, whatever
happens, and for the response to that as long as no cancel under the id is acknowledged and no
response is put in place.  A submission under the id is then answered at once: with the response
that the id stands for if its request is the one that was accepted, and otherwise with a conflict.
-/

namespace OrderDesk

/-- An entry answers the request that it was stored for, and no other. -/
theorem CacheEntry.answer_of (request cached : Payload) (id : ClientId) (request' : Payload) :
  CacheEntry.answer ⟨.of request, cached⟩ id (.of request')
    = if request' = request then .ok cached else .error (.fatal (.orderConflict id))
  := by
  rw [answer]
  by_cases heq : request = request'
  · rw [if_pos (congrArg Fingerprint.of heq), if_pos heq.symm]
  · rw [if_neg (heq ∘ Fingerprint.of_inj.1), if_neg (Ne.symm heq)]

namespace Desk

variable {d : Desk} {e : DeskEvent} {t : Ticket} {id : ClientId} {entry : CacheEntry}

/-! ### Entries of accepted orders -/

/-- A resolved id keeps its entry, up to the response. -/
theorem entry?_after_of_some (hd : d.Coupled) (h : d.cache.entry? id = some entry)
    (events : List DeskEvent) :
  ∃ response, Cache.entry? (d.after events).cache id = some { entry with response }
  := by
  induction events generalizing d entry with
  | nil => exact ⟨entry.response, h⟩
  | cons e events ih =>
    obtain ⟨response, slot⟩ := slot?_step_of_resolved hd (Cache.entry?_eq_some.1 h) e
    have hafter := ih (hd.step e) (Cache.entry?_eq_some.2 slot)
    rw [after_cons]
    exact hafter

/-- The entry of a resolved id changes only when a cancel under the id is acknowledged or when a
response is put in its place. -/
theorem entry?_step_eq (hd : d.Coupled) (h : d.cache.entry? id = some entry)
    (cancels : Grant.cancels (d.granted? e).toList id = [])
    (operation : ∀ response, e ≠ .update id response) :
  Cache.entry? (d.step e).1.cache id = some entry
  := by
  rw [← h]
  apply entry?_step_of_ungranted hd _ operation
  rintro g granted rfl
  cases granted?_eq_some.1 granted with
  | accepted response htask =>
    have resolved : d.IsResolved _ := ⟨entry, Cache.entry?_eq_some.1 h⟩
    exact resolved.not_submitting hd htask
  | @acknowledged t id target n raw htask =>
    rw [granted] at cancels
    simp [Grant.cancels, Grant.id, Grant.cancel?] at cancels

theorem entry?_after_eq (hd : d.Coupled) (h : d.cache.entry? id = some entry)
    {events : List DeskEvent} (cancels : Grant.cancels (d.grants events) id = [])
    (operations : ∀ response, .update id response ∉ events) :
  Cache.entry? (d.after events).cache id = some entry
  := by
  induction events generalizing d with
  | nil => exact h
  | cons e events ih =>
    rw [grants, Grant.cancels_append, List.append_eq_nil_iff] at cancels
    rw [after_cons]
    apply ih (hd.step e) _ cancels.2
    · intro response hmem
      exact operations response (List.mem_cons_of_mem e hmem)
    · apply entry?_step_eq hd h cancels.1
      rintro response rfl
      exact operations response List.mem_cons_self

/-- The venue accepts an order: its id stands for the request and for the annotated response, which
the submission returns. -/
theorem entry?_of_granted {venue : Venue} (hd : d.Coupled) (hvenue : d.venue = venue)
    {request response : Payload}
    (granted : d.granted? (.accepted t response) = some (.accepted t id request response)) :
  Cache.entry? (d.step (.accepted t response)).1.cache id
      = some ⟨.of request, venue.annotate id request response⟩
    ∧ (d.step (.accepted t response)).2
      = [.finished t (.ok (.response (venue.annotate id request response)))]
  := by
  cases granted?_eq_some.1 granted with
  | accepted response htask =>
    constructor
    · rw [entry?_step_of_accepted hd htask, if_pos rfl, hvenue]
      rfl
    · have hshown : (d.step (.accepted t response)).2 = [.finished t (.ok (.response
          (venue.annotate id request (venue.annotate id request response))))] := by
        rw [step, htask]
        change [DeskEffect.finished t (.ok (.response
          (d.venue.annotate id request (d.venue.annotate id request response))))] = _
        rw [hvenue]
        rfl
      rw [hshown, Venue.annotate_annotate]

/-- An accepted order has an entry under its id from then on. -/
theorem entry?_of_accepted (hd : d.Coupled) {request response : Payload}
    {events : List DeskEvent} (hmem : .accepted t id request response ∈ d.grants events) :
  ∃ cached, (d.after events).cache.entry? id = some ⟨.of request, cached⟩
  := by
  induction events generalizing d with
  | nil => cases hmem
  | cons e events ih =>
    rw [after_cons]
    obtain hmem | hmem := List.mem_append.1 hmem
    · cases granted?_eq_some.1 (Option.mem_toList.1 hmem) with
      | accepted response htask =>
        have hentry := entry?_step_of_accepted hd htask response id
        rw [if_pos rfl] at hentry
        exact entry?_after_of_some (hd.step _) hentry events
    · exact ih (hd.step e) hmem

/-- Accepted orders are replayed.  A run of events at a desk leads to the acceptance of an order
under an id, and any events follow.  A submission of a complete order under the id, which can be put
to the venue, then ends as it begins, without a permit and without a call, and leaves the cache as
it was: with the annotated response that is stored under the id if its request is the one that was
accepted, and otherwise with a conflict.  If no cancel under the id has been acknowledged since the
acceptance and no response put in its place, the response that is stored is the one that the first
submission returned, and annotated already. -/
theorem accepted_orders_are_replayed (venue : Venue) (retry : RetryConfig) (limiter : RateLimiter)
    (token : Option Bool) (before : List DeskEvent) (t : Ticket) (id : ClientId)
    (request response : Payload) (later : List DeskEvent) (u : Ticket) (order : Order)
    (request' : Payload) :
  let d := (opened venue retry limiter token).after before
  let accepted := d.step (.accepted t response)
  let now := accepted.1.after later
  d.granted? (.accepted t response) = some (.accepted t id request response) →
  now.task? u = none → order.isComplete = true → venue.buildRequest id order = .ok request' →
    ∃ cached, now.cache.get? id = some cached
      ∧ now.Concludes u
          (if request' = request then .ok (.response (venue.annotate id request' cached))
          else .error (.fatal (.orderConflict id)))
          (now.step (.begin u (.submit order (some id))))
      ∧ (Grant.cancels (accepted.1.grants later) id = [] →
          (∀ response, .update id response ∉ later) →
          accepted.2 = [.finished t (.ok (.response cached))]
          ∧ venue.annotate id request cached = cached)
  := by
  intro d accepted now granted fresh complete built
  have hd : d.Coupled := (coupled_opened venue retry limiter token).after before
  have haccepted : accepted.1.Coupled := hd.step (.accepted t response)
  have hnow : now.Coupled := haccepted.after later
  have hvenue : d.venue = venue := venue_after _ before
  have hvenue' : now.venue = venue := by
    rw [venue_after, venue_step, hvenue]
  -- the acceptance leaves an entry, and no later event changes its fingerprint
  obtain ⟨hentry, hshown⟩ := entry?_of_granted hd hvenue granted
  obtain ⟨cached, hcached⟩ := entry?_after_of_some haccepted hentry later
  refine ⟨cached, ?_, ?_, ?_⟩
  · rw [Cache.get?, hcached]
    rfl
  · have built' : now.venue.buildRequest (now.resolveId (some id)).2 order = .ok request' := by
      rw [hvenue']
      exact built
    have h := concludes_of_resolved fresh (hnow.call_of_fresh fresh) complete built' hcached
    rw [hvenue', CacheEntry.answer_of] at h
    split at h
    next heq =>
      rw [if_pos heq]
      exact h
    next hne =>
      rw [if_neg hne]
      exact h
  · intro cancels operations
    have hsame := entry?_after_eq haccepted hentry cancels operations
    obtain ⟨rfl⟩ : CacheEntry.mk (.of request) cached
        = ⟨.of request, venue.annotate id request response⟩ :=
      Option.some.inj (hcached.symm.trans hsame)
    exact ⟨hshown, venue.annotate_annotate id request response⟩

/-- An order that CCXT has accepted is submitted again: the second submission ends as it begins with
the response that the first one returned. -/
theorem second_submission_returns_first_response :
  let order : Order := .market "BTC" .buy ⟨false, 1, 0, by decide, by decide⟩
  let request := (Venue.ccxt.buildRequest ⟨"x"⟩ order).toOption.getD .empty
  let response := Payload.empty.insert "id" (.str "7")
  let before : List DeskEvent := [.begin "a" (.submit order (some ⟨"x"⟩)), .resume "a" 0]
  let d := (opened Venue.ccxt (.immediate 1) ⟨.perSecond 9, by decide, []⟩ none).after before
  let accepted := d.step (.accepted "a" response)
  let now := accepted.1.after [.advance 7]
  d.granted? (.accepted "a" response) = some (.accepted "a" ⟨"x"⟩ request response)
  ∧ now.task? "b" = none ∧ order.isComplete = true
  ∧ Venue.ccxt.buildRequest ⟨"x"⟩ order = .ok request
  ∧ Grant.cancels (accepted.1.grants [.advance 7]) ⟨"x"⟩ = []
  ∧ ∃ cached, accepted.2 = [.finished "a" (.ok (.response cached))]
      ∧ now.cache.get? ⟨"x"⟩ = some cached
      ∧ now.Concludes "b" (.ok (.response cached))
          (now.step (.begin "b" (.submit order (some ⟨"x"⟩))))
  := by
  intro order request response before d accepted now
  have granted : d.granted? (.accepted "a" response)
      = some (.accepted "a" ⟨"x"⟩ request response) := by decide +kernel
  have fresh : now.task? "b" = none := by decide +kernel
  have complete : order.isComplete = true := by decide
  have built : Venue.ccxt.buildRequest ⟨"x"⟩ order = .ok request := by decide +kernel
  have cancels : Grant.cancels (accepted.1.grants [.advance 7]) ⟨"x"⟩ = [] := by decide +kernel
  obtain ⟨cached, hcached, hconcludes, hfirst⟩ := accepted_orders_are_replayed Venue.ccxt
    (.immediate 1) ⟨.perSecond 9, by decide, []⟩ none before "a" ⟨"x"⟩ request response
    [.advance 7] "b" order request granted fresh complete built
  obtain ⟨hshown, hannotated⟩ := hfirst cancels (by simp)
  rw [if_pos rfl, hannotated] at hconcludes
  exact ⟨granted, fresh, complete, built, cancels, cached, hshown, hcached, hconcludes⟩

end Desk

end OrderDesk
