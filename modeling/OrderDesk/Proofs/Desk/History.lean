import OrderDesk.Proofs.Desk.Acceptance
import OrderDesk.Proofs.Desk.Frame

/-!
# The cache is the history of the venue

The venue grants something to an operation when it accepts its order or acknowledges its cancel.
What a cache holds of an id is then what the venue has granted under it, as long as no response is
replaced from outside: the request that was accepted, with the response to it or to the last
cancel that was acknowledged.  A cancel cannot get ahead of its order, since it begins with the
cached response; and what the venue grants is stored in the same step in which the operation
returns it, so that an operation that is dropped or fails has been granted nothing.
-/

namespace OrderDesk

/-- What the venue grants to the operation under a ticket. -/
inductive Grant where
  | accepted (ticket : Ticket) (id : ClientId) (request response : Payload)
  | acknowledged (ticket : Ticket) (id : ClientId) (target : CancelTarget) (raw : Option Payload)
deriving DecidableEq

namespace Grant

/-- The ticket of the operation that gets it. -/
def ticket : Grant → Ticket
  | .accepted ticket _ _ _ => ticket
  | .acknowledged ticket _ _ _ => ticket

/-- The client id of the order that it concerns. -/
def id : Grant → ClientId
  | .accepted _ id _ _ => id
  | .acknowledged _ id _ _ => id

/-- The request and the response, if an order is accepted. -/
def order? : Grant → Option (Payload × Payload)
  | .accepted _ _ request response => some (request, response)
  | .acknowledged _ _ _ _ => none

/-- The target and the answer of the venue, if a cancel is acknowledged. -/
def cancel? : Grant → Option (CancelTarget × Option Payload)
  | .accepted _ _ _ _ => none
  | .acknowledged _ _ target raw => some (target, raw)

/-- The orders accepted under an id. -/
def orders (history : List Grant) (id : ClientId) : List (Payload × Payload) :=
  (history.filter fun g => g.id = id).filterMap order?

/-- The cancels acknowledged under an id. -/
def cancels (history : List Grant) (id : ClientId) : List (CancelTarget × Option Payload) :=
  (history.filter fun g => g.id = id).filterMap cancel?

theorem mem_orders {history : List Grant} {id : ClientId} {request response : Payload} :
  (request, response) ∈ orders history id ↔ ∃ t, .accepted t id request response ∈ history
  := by
  rw [orders, List.mem_filterMap]
  constructor
  · rintro ⟨g, hkept, heq⟩
    obtain ⟨hmem, hid⟩ := List.mem_filter.1 hkept
    cases g with
    | accepted t other =>
      cases heq
      obtain rfl : other = id := of_decide_eq_true hid
      exact ⟨t, hmem⟩
    | acknowledged => cases heq
  · rintro ⟨t, hmem⟩
    use .accepted t id request response
    exact ⟨List.mem_filter.2 ⟨hmem, decide_eq_true rfl⟩, rfl⟩

theorem mem_cancels {history : List Grant} {id : ClientId} {target : CancelTarget}
    {raw : Option Payload} :
  (target, raw) ∈ cancels history id ↔ ∃ t, .acknowledged t id target raw ∈ history
  := by
  rw [cancels, List.mem_filterMap]
  constructor
  · rintro ⟨g, hkept, heq⟩
    obtain ⟨hmem, hid⟩ := List.mem_filter.1 hkept
    cases g with
    | accepted => cases heq
    | acknowledged t other =>
      cases heq
      obtain rfl : other = id := of_decide_eq_true hid
      exact ⟨t, hmem⟩
  · rintro ⟨t, hmem⟩
    use .acknowledged t id target raw
    exact ⟨List.mem_filter.2 ⟨hmem, decide_eq_true rfl⟩, rfl⟩

theorem orders_append (history history' : List Grant) (id : ClientId) :
  orders (history ++ history') id = orders history id ++ orders history' id
  := by
  rw [orders, List.filter_append, List.filterMap_append]
  rfl

theorem cancels_append (history history' : List Grant) (id : ClientId) :
  cancels (history ++ history') id = cancels history id ++ cancels history' id
  := by
  rw [cancels, List.filter_append, List.filterMap_append]
  rfl

end Grant

/-- The response to an order that is current after what the venue has granted: that to the last
cancel under its id, and the response to the order itself if none was acknowledged. -/
def VenueProfile.currentResponse (venue : VenueProfile) (history : List Grant) (id : ClientId)
    (request response : Payload) : Payload :=
  match (Grant.cancels history id).getLast? with
  | some (target, raw) => venue.cancelResponse target raw
  | none => venue.annotate id request response

namespace Desk

/-- What the venue grants in an event, to an operation whose call is under way. -/
def granted? (d : Desk) : DeskEvent → Option Grant
  | .accepted t response =>
    match d.task? t with
    | some (.submitting id request (.running _)) => some (.accepted t id request response)
    | _ => none
  | .acknowledged t raw =>
    match d.task? t with
    | some (.cancelling id target (.running _)) => some (.acknowledged t id target raw)
    | _ => none
  | _ => none

/-- What the venue grants in a sequence of events, in order. -/
def grants (d : Desk) : List DeskEvent → List Grant
  | [] => []
  | e :: events => (d.granted? e).toList ++ (d.step e).1.grants events

variable {d : Desk} {e : DeskEvent} {t : Ticket} {id : ClientId} {history : List Grant} {g : Grant}

/-! ### What an id stores -/

/-- What is stored under an id after what the venue has granted. -/
inductive Stores (venue : VenueProfile) (history : List Grant) (id : ClientId) :
    Option CacheEntry → Prop where
  | nothing (orders : Grant.orders history id = []) (cancels : Grant.cancels history id = []) :
      Stores venue history id none
  | entry {request response : Payload} (orders : Grant.orders history id = [(request, response)]) :
      Stores venue history id
        (some ⟨.of request, venue.currentResponse history id request response⟩)

namespace Stores

variable {venue : VenueProfile} {entry : Option CacheEntry}

/-- What the venue grants under another id has no bearing. -/
theorem append_of_ne (h : Stores venue history id entry) (hne : g.id ≠ id) :
  Stores venue (history ++ [g]) id entry
  := by
  have horders : Grant.orders (history ++ [g]) id = Grant.orders history id := by
    simp [Grant.orders, hne]
  have hcancels : Grant.cancels (history ++ [g]) id = Grant.cancels history id := by
    simp [Grant.cancels, hne]
  cases h with
  | nothing orders cancels => exact .nothing (horders.trans orders) (hcancels.trans cancels)
  | entry orders =>
    rw [VenueProfile.currentResponse, ← hcancels]
    exact .entry (horders.trans orders)

theorem accepted (h : Stores venue history id none) (t : Ticket) (request response : Payload) :
  Stores venue (history ++ [.accepted t id request response]) id
    (some ⟨.of request, venue.annotate id request response⟩)
  := by
  cases h with
  | nothing orders cancels =>
    have horders : Grant.orders (history ++ [.accepted t id request response]) id
        = [(request, response)] := by
      rw [Grant.orders_append, orders]
      simp [Grant.orders, Grant.id, Grant.order?]
    have hcancels : Grant.cancels (history ++ [.accepted t id request response]) id = [] := by
      rw [Grant.cancels_append, cancels]
      simp [Grant.cancels, Grant.id, Grant.cancel?]
    have h : Stores venue _ id _ := .entry horders
    rw [VenueProfile.currentResponse, hcancels] at h
    exact h

theorem acknowledged {entry : CacheEntry} (h : Stores venue history id (some entry)) (t : Ticket)
    (target : CancelTarget) (raw : Option Payload) :
  Stores venue (history ++ [.acknowledged t id target raw]) id
    (some { entry with response := venue.cancelResponse target raw })
  := by
  cases h with
  | entry orders =>
    have horders : Grant.orders (history ++ [.acknowledged t id target raw]) id
        = Grant.orders history id := by
      rw [Grant.orders_append]
      simp [Grant.orders, Grant.id, Grant.order?]
    have hcancels : Grant.cancels (history ++ [.acknowledged t id target raw]) id
        = Grant.cancels history id ++ [(target, raw)] := by
      rw [Grant.cancels_append]
      simp [Grant.cancels, Grant.id, Grant.cancel?]
    have h : Stores venue _ id _ := .entry (horders.trans orders)
    rw [VenueProfile.currentResponse, hcancels, List.getLast?_concat] at h
    exact h

theorem isSome_iff (h : Stores venue history id entry) :
  entry.isSome ↔ ∃ t request response, .accepted t id request response ∈ history
  := by
  cases h with
  | nothing orders cancels =>
    constructor
    · exact nofun
    · rintro ⟨t, request, response, hmem⟩
      have horder := Grant.mem_orders.2 ⟨t, hmem⟩
      rw [orders] at horder
      cases horder
  | @entry request response orders =>
    have horder : (request, response) ∈ Grant.orders history id := by
      rw [orders]
      exact List.mem_singleton_self _
    obtain ⟨t, hmem⟩ := Grant.mem_orders.1 horder
    exact ⟨fun _ => ⟨t, request, response, hmem⟩, fun _ => rfl⟩

theorem eq_some (h : Stores venue history id entry) {request response : Payload}
    (hmem : .accepted t id request response ∈ history) :
  entry = some ⟨.of request, venue.currentResponse history id request response⟩
  := by
  have horder := Grant.mem_orders.2 ⟨t, hmem⟩
  cases h with
  | nothing orders cancels =>
    rw [orders] at horder
    cases horder
  | entry orders =>
    rw [orders] at horder
    cases List.mem_singleton.1 horder
    rfl

end Stores

/-! ### Grants -/

/-- In the event the venue grants something. -/
inductive Grants (d : Desk) : DeskEvent → Grant → Prop where
  | accepted {t : Ticket} {id : ClientId} {request : Payload} {n : Nat} (response : Payload)
      (htask : d.task? t = some (.submitting id request (.running n))) :
      Grants d (.accepted t response) (.accepted t id request response)
  | acknowledged {t : Ticket} {id : ClientId} {target : CancelTarget} {n : Nat}
      (raw : Option Payload) (htask : d.task? t = some (.cancelling id target (.running n))) :
      Grants d (.acknowledged t raw) (.acknowledged t id target raw)

theorem granted?_eq_some :
  d.granted? e = some g ↔ d.Grants e g
  := by
  constructor
  · intro h
    rw [granted?.eq_def] at h
    split at h
    next t response =>
      split at h
      next id request n htask =>
        cases h
        exact .accepted response htask
      · cases h
    next t raw =>
      split at h
      next id target n htask =>
        cases h
        exact .acknowledged raw htask
      · cases h
    · cases h
  · intro h
    cases h with
    | accepted response htask => rw [granted?, htask]
    | acknowledged raw htask => rw [granted?, htask]

/-- An operation returns in the step in which the venue grants it something. -/
theorem Grants.finished (h : d.Grants e g) :
  ∃ answer, (d.step e).1.task? g.ticket = some (.finished (.ok answer))
  := by
  cases h with
  | accepted response htask =>
    rw [step, htask]
    exact ⟨_, (task?_setTask _ _ _ _).trans (if_pos rfl)⟩
  | acknowledged raw htask =>
    rw [step, htask]
    exact ⟨_, (task?_setTask _ _ _ _).trans (if_pos rfl)⟩

/-- An accepted order becomes the entry of its id, and of no other. -/
theorem entry?_step_of_accepted (hd : d.Coupled) {request : Payload} {n : Nat}
    (htask : d.task? t = some (.submitting id request (.running n))) (response : Payload)
    (other : ClientId) :
  Cache.entry? (d.step (.accepted t response)).1.cache other
    = if other = id then some ⟨.of request, d.venue.annotate id request response⟩
      else d.cache.entry? other
  := by
  have hshared : (d.step (.accepted t response)).1.shared
      = d.shared.step (.settle t (.ok (d.venue.annotate id request response))) := by
    rw [step, htask]
    exact (d.settleSubmitted_ends t id request (.ok response)).shared_eq
  rw [cache, hshared, hd.sound.entry?_settle (hd.call_of_submitting htask)]
  rfl

/-- The response to an acknowledged cancel takes the place of the one stored under its id. -/
theorem entry?_step_of_acknowledged {target : CancelTarget} {n : Nat} {entry : CacheEntry}
    (htask : d.task? t = some (.cancelling id target (.running n)))
    (hentry : d.cache.entry? id = some entry) (raw : Option Payload) (other : ClientId) :
  Cache.entry? (d.step (.acknowledged t raw)).1.cache other
    = if other = id then some { entry with response := d.venue.cancelResponse target raw }
      else d.cache.entry? other
  := by
  have hcache : (d.step (.acknowledged t raw)).1.cache
      = d.cache.update id (d.venue.cancelResponse target raw) := by
    rw [step, htask]
    rfl
  rw [hcache, Cache.entry?_update_of_resolved (Cache.entry?_eq_some.1 hentry)]

/-- An event in which the venue grants nothing under an id, and no response is put in place there,
leaves its entry as it is. -/
theorem entry?_step_of_ungranted (hd : d.Coupled)
    (ungranted : ∀ g, d.granted? e = some g → g.id ≠ id)
    (operation : ∀ response, e ≠ .update id response) :
  Cache.entry? (d.step e).1.cache id = d.cache.entry? id
  := by
  obtain hshared | ⟨e', touches, hshared⟩ := d.shared_step e
  · rw [cache, hshared]
    rfl
  · rw [cache, hshared]
    cases touches with
    | asks => exact hd.sound.entry?_step (e := .remember _ _ _) trivial id
    | quiet e quiet => apply hd.sound.entry?_step quiet
    | @accepts t other request n response htask =>
      have hne : other ≠ id := ungranted _ (granted?_eq_some.2 (.accepted response htask))
      rw [hd.sound.entry?_settle (hd.call_of_submitting htask), if_neg hne.symm]
      rfl
    | @acknowledges t other target n raw htask =>
      have hne : other ≠ id := ungranted _ (granted?_eq_some.2 (.acknowledged raw htask))
      apply Cache.entry?_update_of_ne hne.symm
    | updates other response =>
      apply Cache.entry?_update_of_ne
      rintro rfl
      exact operation response rfl

/-- An event in which the venue grants nothing leaves the entries as they are. -/
theorem entry?_step_of_not_granted (hd : d.Coupled) (ungranted : d.granted? e = none)
    (operation : ∀ id response, e ≠ .update id response) (id : ClientId) :
  Cache.entry? (d.step e).1.cache id = d.cache.entry? id
  := by
  apply entry?_step_of_ungranted hd _ (operation id)
  rw [ungranted]
  exact nofun

/-! ### How ids come to be resolved -/

/-- Cancels are under way only for resolved ids. -/
def CancelsResolved (d : Desk) : Prop :=
  ∀ t id target stage, d.task? t = some (.cancelling id target stage) → d.IsResolved id

theorem CancelsResolved.step (h : d.CancelsResolved) (hd : d.Coupled) (e : DeskEvent) :
  (d.step e).1.CancelsResolved
  := by
  intro t id target stage htask
  obtain ⟨stage', hbefore⟩ | ⟨response, cached, -⟩ := cancelling_of_step htask
  · apply (h t id target stage' hbefore).step hd
  · obtain ⟨entry, hentry, -⟩ := Option.map_eq_some_iff.1 cached
    have resolved : d.IsResolved id := ⟨entry, Cache.entry?_eq_some.1 hentry⟩
    apply resolved.step hd

theorem CancelsResolved.after (h : d.CancelsResolved) (hd : d.Coupled)
    (events : List DeskEvent) :
  (d.after events).CancelsResolved
  := (after_induction (motive := fun d => d.Coupled ∧ d.CancelsResolved)
    (fun e _ _ h => ⟨h.1.step e, h.2.step h.1 e⟩) ⟨hd, h⟩).2

/-- An id comes to be resolved in the event in which the venue accepts an order under it, or in
which a response is put under it from outside. -/
theorem IsResolved.of_step (resolved : (d.step e).1.IsResolved id) (hd : d.Coupled)
    (cancels : d.CancelsResolved) :
  d.IsResolved id
  ∨ (∃ t request response, d.granted? e = some (.accepted t id request response))
  ∨ ∃ response, e = .update id response
  := by
  by_cases operation : ∃ response, e = .update id response
  · exact .inr (.inr operation)
  by_cases granted : ∃ g, d.granted? e = some g ∧ g.id = id
  · obtain ⟨g, granted, rfl⟩ := granted
    cases granted?_eq_some.1 granted with
    | accepted response htask => exact .inr (.inl ⟨_, _, _, granted⟩)
    | acknowledged raw htask => exact .inl (cancels _ _ _ _ htask)
  · left
    obtain ⟨entry, slot⟩ := resolved
    have hentry : Cache.entry? (d.step e).1.cache id = some entry := Cache.entry?_eq_some.2 slot
    rw [entry?_step_of_ungranted hd (fun g hg hid => granted ⟨g, hg, hid⟩)
      (not_exists.1 operation)] at hentry
    exact ⟨entry, Cache.entry?_eq_some.1 hentry⟩

theorem IsResolved.of_after {events : List DeskEvent} (resolved : (d.after events).IsResolved id)
    (hd : d.Coupled) (cancels : d.CancelsResolved) :
  d.IsResolved id
  ∨ (∃ t request response, .accepted t id request response ∈ d.grants events)
  ∨ ∃ response, .update id response ∈ events
  := by
  induction events generalizing d with
  | nil => exact .inl resolved
  | cons e events ih =>
    rw [after_cons] at resolved
    obtain before | ⟨t, request, response, hmem⟩ | ⟨response, hmem⟩ :=
      ih resolved (hd.step e) (cancels.step hd e)
    · obtain before | ⟨t, request, response, granted⟩ | ⟨response, rfl⟩ := before.of_step hd cancels
      · exact .inl before
      · refine .inr (.inl ⟨t, request, response, List.mem_append_left _ ?_⟩)
        exact Option.mem_toList.2 granted
      · exact .inr (.inr ⟨response, List.mem_cons_self⟩)
    · exact .inr (.inl ⟨t, request, response, List.mem_append_right _ hmem⟩)
    · exact .inr (.inr ⟨response, List.mem_cons_of_mem e hmem⟩)

/-! ### Runs -/

/-- The cache of the desk stores what the venue has granted. -/
structure Recorded (d : Desk) (history : List Grant) : Prop where
  coupled : d.Coupled
  stores (id : ClientId) : Stores d.venue history id (d.cache.entry? id)
  cancels : d.CancelsResolved
  finished {g : Grant} (hmem : g ∈ history) :
    ∃ answer, d.task? g.ticket = some (.finished (.ok answer))

namespace Recorded

/-- The venue accepts an order: its id had no entry. -/
theorem stores_accepted (h : d.Recorded history) {request : Payload} {n : Nat}
    (htask : d.task? t = some (.submitting id request (.running n))) (response : Payload)
    (other : ClientId) :
  Stores d.venue (history ++ [.accepted t id request response]) other
    (Cache.entry? (d.step (.accepted t response)).1.cache other)
  := by
  have hstores := h.stores other
  rw [entry?_step_of_accepted h.coupled htask response]
  by_cases heq : other = id
  · subst heq
    have free : d.cache.entry? other = none := by
      rw [cache, Cache.entry?, h.coupled.sound.slot (h.coupled.call_of_submitting htask)]
    rw [free] at hstores
    rw [if_pos rfl]
    exact hstores.accepted t request response
  · rw [if_neg heq]
    exact hstores.append_of_ne (Ne.symm heq)

/-- The venue acknowledges a cancel: its id has an entry. -/
theorem stores_acknowledged (h : d.Recorded history) {target : CancelTarget} {n : Nat}
    (htask : d.task? t = some (.cancelling id target (.running n))) (raw : Option Payload)
    (other : ClientId) :
  Stores d.venue (history ++ [.acknowledged t id target raw]) other
    (Cache.entry? (d.step (.acknowledged t raw)).1.cache other)
  := by
  have hstores := h.stores other
  obtain ⟨entry, slot⟩ := h.cancels _ _ _ _ htask
  have hentry : d.cache.entry? id = some entry := Cache.entry?_eq_some.2 slot
  rw [entry?_step_of_acknowledged htask hentry raw]
  by_cases heq : other = id
  · subst heq
    rw [hentry] at hstores
    rw [if_pos rfl]
    exact hstores.acknowledged t target raw
  · rw [if_neg heq]
    exact hstores.append_of_ne (Ne.symm heq)

/-- What the venue grants in an event is stored in it. -/
theorem step (h : d.Recorded history) (operation : ∀ id response, e ≠ .update id response) :
  (d.step e).1.Recorded (history ++ (d.granted? e).toList)
  := by
  constructor
  · apply h.coupled.step e
  · intro other
    rw [venue_step]
    rcases granted : d.granted? e with _ | g
    · rw [Option.toList_none, List.append_nil,
        entry?_step_of_not_granted h.coupled granted operation]
      apply h.stores other
    · cases granted?_eq_some.1 granted with
      | accepted response htask => apply h.stores_accepted htask response
      | acknowledged raw htask => apply h.stores_acknowledged htask raw
  · apply h.cancels.step h.coupled
  · intro g hmem
    obtain hmem | hmem := List.mem_append.1 hmem
    · obtain ⟨answer, htask⟩ := h.finished hmem
      exact ⟨answer, finished_step htask e⟩
    · apply Grants.finished
      apply granted?_eq_some.1
      exact Option.mem_toList.1 hmem

theorem after (h : d.Recorded history) {events : List DeskEvent}
    (operations : ∀ id response, .update id response ∉ events) :
  (d.after events).Recorded (history ++ d.grants events)
  := by
  induction events generalizing d history with
  | nil =>
    rw [grants, List.append_nil]
    exact h
  | cons e events ih =>
    rw [after_cons, grants, ← List.append_assoc]
    apply ih
    · apply h.step
      rintro id response rfl
      exact operations id response List.mem_cons_self
    · intro id response hmem
      exact operations id response (List.mem_cons_of_mem e hmem)

end Recorded

/-- At a desk where nothing has happened the venue has granted nothing. -/
theorem recorded_opened (venue : VenueProfile) (retry : RetryConfig) (limiter : RateLimiter)
    (token : Option Bool) :
  (opened venue retry limiter token).Recorded []
  := by
  constructor
  · apply coupled_opened
  · intro id
    exact .nothing rfl rfl
  · intro t id target stage htask
    cases htask
  · exact nofun

/-- The cache is the history of the venue.  After every run of events at a desk in which no
response is replaced from outside, an id has a response exactly if the venue has accepted an order
under it; it stores the request that was accepted, with the response to the last cancel under the
id that the venue has acknowledged, and if there is none, with the annotated response to the order.
All that the venue has granted was granted to operations that have succeeded; an event in which it
grants nothing leaves what is stored as it is, and one in which it acknowledges a cancel puts the
response to that in place. -/
theorem cache_is_the_history_of_the_venue (venue : VenueProfile) (retry : RetryConfig)
    (limiter : RateLimiter) (token : Option Bool) (events : List DeskEvent)
    (operations : ∀ id response, .update id response ∉ events) :
  let d := (opened venue retry limiter token).after events
  let history := (opened venue retry limiter token).grants events
  (∀ id, (d.cache.get? id).isSome ↔ ∃ t request response,
    .accepted t id request response ∈ history)
  ∧ (∀ t id request response, .accepted t id request response ∈ history →
      d.cache.entry? id
        = some ⟨.of request, venue.currentResponse history id request response⟩)
  ∧ (∀ g ∈ history, ∃ answer, d.task? g.ticket = some (.finished (.ok answer)))
  ∧ ∀ e, (∀ id response, e ≠ .update id response) →
      (d.granted? e = none → ∀ id, Cache.entry? (d.step e).1.cache id = d.cache.entry? id)
      ∧ ∀ t id target raw, d.granted? e = some (.acknowledged t id target raw) →
          (d.step e).1.cache.get? id = some (venue.cancelResponse target raw)
  := by
  intro d history
  have h : d.Recorded history := (recorded_opened venue retry limiter token).after operations
  have hvenue : d.venue = venue := venue_after _ events
  have hstores := h.stores
  rw [hvenue] at hstores
  refine ⟨?_, ?_, ?_, ?_⟩
  · intro id
    rw [Cache.get?, Option.isSome_map]
    apply (hstores id).isSome_iff
  · intro t id request response hmem
    apply (hstores id).eq_some hmem
  · intro g hmem
    apply h.finished hmem
  · intro e operation
    constructor
    · intro ungranted id
      apply entry?_step_of_not_granted h.coupled ungranted operation
    · intro t id target raw granted
      cases granted?_eq_some.1 granted with
      | acknowledged raw htask =>
        obtain ⟨entry, slot⟩ := h.cancels _ _ _ _ htask
        have hentry : d.cache.entry? id = some entry := Cache.entry?_eq_some.2 slot
        rw [Cache.get?, entry?_step_of_acknowledged htask hentry, if_pos rfl, hvenue]
        rfl

/-- Two cancels of one order at Alpaca are acknowledged, the later first, and the submission of
another order is dropped while its call is under way: the first order shows the acknowledgement
that came last, and the other one is unknown. -/
theorem cache_shows_the_last_acknowledgement :
  let order : Order := .market "EUR" .buy ⟨false, 1, 0, by decide, by decide⟩
  let raw := Payload.empty.insert "status" (.str "pending_cancel")
  let events : List DeskEvent := [
    .begin "a" (.submit order (some ⟨"x"⟩)), .resume "a" 0, .accepted "a" .empty,
    .begin "b" (.cancel ⟨"x"⟩), .resume "b" 0, .begin "c" (.cancel ⟨"x"⟩), .resume "c" 0,
    .begin "d" (.submit order (some ⟨"y"⟩)), .resume "d" 0, .acknowledged "c" none,
    .abort "d", .acknowledged "b" (some raw)]
  let start := opened Venue.alpaca (.immediate 1) ⟨.perSecond 9, by decide, []⟩ none
  (∀ id response, .update id response ∉ events)
  ∧ (start.after events).cache.get? ⟨"x"⟩
    = some (raw.insert "client_order_id" (.str "x"))
  ∧ ((start.after events).cache.get? ⟨"y"⟩).isSome = false
  := by
  intro order raw events start
  have operations : ∀ id response, .update id response ∉ events := by
    intro id response
    simp [events]
  let request := (Venue.alpaca.buildRequest ⟨"x"⟩ order).toOption.getD .empty
  have hgrants : start.grants events = [
      .accepted "a" ⟨"x"⟩ request .empty,
      .acknowledged "c" ⟨"x"⟩ (.byClientId ⟨"x"⟩) none,
      .acknowledged "b" ⟨"x"⟩ (.byClientId ⟨"x"⟩) (some raw)] := by
    decide +kernel
  obtain ⟨hknown, hentry, -, -⟩ := cache_is_the_history_of_the_venue Venue.alpaca (.immediate 1)
    ⟨.perSecond 9, by decide, []⟩ none events operations
  rw [hgrants] at hknown hentry
  refine ⟨operations, ?_, ?_⟩
  · rw [Cache.get?, hentry "a" ⟨"x"⟩ request .empty List.mem_cons_self]
    decide +kernel
  · rw [Bool.eq_false_iff, ne_eq, hknown]
    simp

end Desk

end OrderDesk
