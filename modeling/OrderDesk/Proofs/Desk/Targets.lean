import OrderDesk.Proofs.Desk.Effects
import OrderDesk.Proofs.Desk.Precedence

/-!
# Repeated cancels address the order that was last named

The response to an acknowledged cancel takes the place of the one to the order, and the next cancel
is addressed by what it finds there.  It names the same order again exactly if the acknowledgement
names the order that was cancelled.  So all cancels under an id have the target that the response to
the accepted order named if every acknowledgement does; where one names another order or none,
later cancels address that order, or are turned down.
-/

namespace OrderDesk

namespace Desk

variable {d : Desk} {e : DeskEvent} {t : Ticket} {id : ClientId} {venue : Venue}
  {target : CancelTarget} {history history' : List Grant} {events : List DeskEvent}

/-- The venue has accepted an order under the id, and the response to that names the target. -/
def Names (venue : Venue) (history : List Grant) (id : ClientId) (target : CancelTarget) : Prop :=
  ∃ u request response, .accepted u id request response ∈ history
    ∧ venue.cancelTarget id (venue.annotate id request response) = .ok target

/-- The acknowledgements of cancels under the id name the orders that were cancelled. -/
def Confirmed (venue : Venue) (history : List Grant) (id : ClientId) : Prop :=
  ∀ t target raw, .acknowledged t id target raw ∈ history → venue.Confirms target raw

theorem Names.mono (h : Names venue history id target) (hsub : history ⊆ history') :
  Names venue history' id target
  := by
  obtain ⟨u, request, response, hmem, named⟩ := h
  exact ⟨u, request, response, hsub hmem, named⟩

theorem Confirmed.mono (h : Confirmed venue history' id) (hsub : history ⊆ history') :
  Confirmed venue history id
  := by
  intro t target raw hmem
  exact h t target raw (hsub hmem)

/-- No more than one target is named under an id, since no more than one order is accepted. -/
theorem Names.unique (h : Names venue history id target) {target' : CancelTarget}
    (h' : Names venue history id target') {entry : Option CacheEntry}
    (stores : Stores venue history id entry) :
  target = target'
  := by
  obtain ⟨u, request, response, hmem, named⟩ := h
  obtain ⟨u', request', response', hmem', named'⟩ := h'
  have horder := Grant.mem_orders.2 ⟨u, hmem⟩
  have horder' := Grant.mem_orders.2 ⟨u', hmem'⟩
  cases stores with
  | nothing orders =>
    rw [orders] at horder
    cases horder
  | entry orders =>
    rw [orders] at horder horder'
    cases List.mem_singleton.1 horder
    cases List.mem_singleton.1 horder'
    exact Except.ok.inj (named.symm.trans named')

/-- The cancels under the id, under way and acknowledged, have the target that the response to the
accepted order names. -/
structure Aimed (d : Desk) (venue : Venue) (history : List Grant) (id : ClientId) : Prop where
  recorded : d.Recorded history
  venue_eq : d.venue = venue
  addressed : d.Addressed
  tasks {t : Ticket} {target : CancelTarget} {stage : RetryStage}
    (htask : d.task? t = some (.cancelling id target stage)) : Names venue history id target
  acknowledged {t : Ticket} {target : CancelTarget} {raw : Option Payload}
    (hmem : .acknowledged t id target raw ∈ history) : Names venue history id target

namespace Aimed

/-- The response that is current under the id names no other target, if the acknowledgements have
named the orders that were cancelled. -/
theorem names_of_current (h : d.Aimed venue history id) (confirmed : Confirmed venue history id)
    {cached : Payload} (hcached : d.cache.get? id = some cached)
    (named : venue.cancelTarget id cached = .ok target) :
  Names venue history id target
  := by
  obtain ⟨entry, hentry, rfl⟩ := Option.map_eq_some_iff.1 hcached
  have stores := h.recorded.stores id
  rw [hentry, h.venue_eq] at stores
  cases stores with
  | @entry request response orders =>
    dsimp only at named
    rw [VenueProfile.currentResponse] at named
    split at named
    next target' raw hlast =>
      -- the target of the last acknowledged cancel has been named, and the response names it again
      obtain ⟨t, hmem⟩ := Grant.mem_cancels.1 (List.mem_of_getLast? hlast)
      have hnames := h.acknowledged hmem
      obtain ⟨_, _, _, -, named'⟩ := h.acknowledged hmem
      have again := (Venue.cancelTarget_cancelResponse named' raw).2 (confirmed t target' raw hmem)
      cases again.symm.trans named
      exact hnames
    next =>
      -- no cancel has been acknowledged: the response is that to the order
      have horder : (request, response) ∈ Grant.orders history id := by
        rw [orders]
        exact List.mem_singleton_self _
      obtain ⟨u, hmem⟩ := Grant.mem_orders.1 horder
      exact ⟨u, request, response, hmem, named⟩

theorem step (h : d.Aimed venue history id) (confirmed : Confirmed venue history id)
    (operation : ∀ id response, e ≠ .update id response) :
  (d.step e).1.Aimed venue (history ++ (d.granted? e).toList) id
  := by
  have hsub : history ⊆ history ++ (d.granted? e).toList := List.subset_append_left _ _
  constructor
  · apply h.recorded.step operation
  · rw [venue_step, h.venue_eq]
  · apply h.addressed.step h.venue_eq
  · intro t target stage htask
    obtain ⟨stage', hbefore⟩ | ⟨cached, hcached, named⟩ := cancelling_of_step htask
    · exact (h.tasks hbefore).mono hsub
    · rw [h.venue_eq] at named
      exact (h.names_of_current confirmed hcached named).mono hsub
  · intro t target raw hmem
    obtain hmem | hmem := List.mem_append.1 hmem
    · exact (h.acknowledged hmem).mono hsub
    · have grants := granted?_eq_some.1 (Option.mem_toList.1 hmem)
      cases grants with
      | acknowledged raw htask => exact (h.tasks htask).mono hsub

/-- The calls that cancel the order of the id have the target that was named when it was
accepted. -/
theorem names_of_called (h : d.Aimed venue history id)
    (confirmed : Confirmed venue (history ++ d.grants events) id)
    (operations : ∀ id response, .update id response ∉ events)
    (called : .called t (.cancel target) ∈ d.shown events) (hid : target.clientId = id) :
  Names venue (history ++ d.grants events) id target
  := by
  induction events generalizing d history with
  | nil => cases called
  | cons e events ih =>
    have operation : ∀ id response, e ≠ .update id response := by
      rintro id response rfl
      exact operations id response List.mem_cons_self
    have now := h.step (confirmed.mono (List.subset_append_left _ _)) operation
    rw [shown_cons] at called
    obtain called | called := List.mem_append.1 called
    · obtain ⟨id', n, htask⟩ := cancelling_of_called called
      obtain rfl : id' = id := (h.addressed t id' target _ htask).symm.trans hid
      exact (h.tasks htask).mono (List.subset_append_left _ _)
    · rw [grants, ← List.append_assoc] at confirmed ⊢
      apply ih now confirmed _ called
      intro id response hmem
      exact operations id response (List.mem_cons_of_mem e hmem)

end Aimed

/-- At a desk where nothing has happened there are no cancels. -/
theorem aimed_opened (venue : Venue) (retry : RetryConfig) (limiter : RateLimiter)
    (token : Option Bool) (id : ClientId) :
  (opened venue retry limiter token).Aimed venue [] id
  := by
  constructor
  · apply recorded_opened
  · rfl
  · exact addressed_after venue retry limiter token []
  · intro t target stage htask
    cases htask
  · exact nofun

/-- Repeated cancels address one order as long as the acknowledgements name it.  The response to a
cancel, which is stored in place of the one that named its target, names the target again exactly if
the acknowledgement of the venue does: where the venue needs its own order id, the acknowledgement
has that of the target, and at CCXT no other symbol.  In every run of events at a desk in which no
response is replaced from outside, all calls that cancel the order of an id have the same target if
every acknowledgement under the id names the order that was cancelled; it is the one that the
annotated response to the accepted order names. -/
theorem cancels_keep_their_target_if_confirmed (venue : Venue) :
  (∀ id cached target raw, venue.cancelTarget id cached = .ok target →
    (venue.cancelTarget id (venue.cancelResponse target raw) = .ok target
      ↔ venue.Confirms target raw))
  ∧ ∀ retry limiter token events,
      (∀ id response, .update id response ∉ events) →
      let start := opened venue retry limiter token
      ∀ id, Confirmed venue (start.grants events) id →
        (∀ t target, .called t (.cancel target) ∈ start.shown events → target.clientId = id →
          Names venue (start.grants events) id target)
        ∧ ∀ t u target target', .called t (.cancel target) ∈ start.shown events →
            .called u (.cancel target') ∈ start.shown events →
            target.clientId = id → target'.clientId = id → target = target'
  := by
  constructor
  · intro id cached target raw named
    apply Venue.cancelTarget_cancelResponse named
  · intro retry limiter token events operations start id confirmed
    have names (t : Ticket) (target : CancelTarget)
        (called : .called t (.cancel target) ∈ start.shown events) (hid : target.clientId = id) :
        Names venue (start.grants events) id target :=
      (aimed_opened venue retry limiter token id).names_of_called confirmed operations called hid
    have recorded := (recorded_opened venue retry limiter token).after operations
    refine ⟨names, ?_⟩
    intro t u target target' called called' hid hid'
    apply (names t target called hid).unique (names u target' called' hid')
    exact venue_after (opened venue retry limiter token) events ▸ recorded.stores id

/-- An order at CCXT is cancelled twice, and the first cancel is acknowledged with the order's own
id: both calls have the target that the response to the order named. -/
theorem second_cancel_has_first_target :
  let id : ClientId := ⟨"x"⟩
  let order : Order := .market "BTC" .buy ⟨false, 1, 0, by decide, by decide⟩
  let response := Payload.empty.insert "id" (.str "7")
  let target : CancelTarget := ⟨id, some "7", some "BTC"⟩
  let events : List DeskEvent := [
    .begin "a" (.submit order (some id)), .resume "a" 0, .accepted "a" response,
    .begin "b" (.cancel id), .resume "b" 0, .acknowledged "b" (some response),
    .begin "c" (.cancel id), .resume "c" 0]
  let start := opened Venue.ccxt (.immediate 1) ⟨.perSecond 9, by decide, []⟩ none
  (∀ id response, .update id response ∉ events)
  ∧ Confirmed .ccxt (start.grants events) id
  ∧ .called "b" (.cancel target) ∈ start.shown events
  ∧ .called "c" (.cancel target) ∈ start.shown events
  ∧ ∀ u target', .called u (.cancel target') ∈ start.shown events → target'.clientId = id →
      target' = target
  := by
  intro id order response target events start
  let request := (Venue.ccxt.buildRequest id order).toOption.getD .empty
  have operations : ∀ id response, .update id response ∉ events := by
    intro id response
    simp [events]
  have hgrants : start.grants events
      = [.accepted "a" id request response, .acknowledged "b" id target (some response)] := by
    decide +kernel
  have confirmed : Confirmed .ccxt (start.grants events) id := by
    rw [hgrants]
    intro t target' raw hmem
    obtain ⟨rfl, rfl, rfl⟩ : t = "b" ∧ target' = target ∧ raw = some response := by
      simpa using hmem
    intro needs
    constructor
    · decide +kernel
    · intro _ symbol hsymbol
      have absent : response.get? "symbol" = none := by decide +kernel
      cases absent.symm.trans hsymbol
  have first : .called "b" (.cancel target) ∈ start.shown events := by decide +kernel
  have second : .called "c" (.cancel target) ∈ start.shown events := by decide +kernel
  obtain ⟨-, hrun⟩ := cancels_keep_their_target_if_confirmed .ccxt
  obtain ⟨-, same⟩ := hrun (.immediate 1) ⟨.perSecond 9, by decide, []⟩ none events
    operations id confirmed
  refine ⟨operations, confirmed, first, second, ?_⟩
  intro u target' called hid
  exact same u "b" target' target called first hid rfl

/-- An order at CCXT is cancelled twice, and the first cancel is acknowledged with another id: the
second call is for that id.  At OANDA, where an acknowledgement has no body, no second cancel is
called at all. -/
theorem unconfirmed_cancel_loses_target :
  let id : ClientId := ⟨"x"⟩
  let order : Order := .market "BTC" .buy ⟨false, 1, 0, by decide, by decide⟩
  let response := Payload.empty.insert "id" (.str "7")
  let raw := Payload.empty.insert "id" (.str "8")
  let target : CancelTarget := ⟨id, some "7", some "BTC"⟩
  let target' : CancelTarget := ⟨id, some "8", some "BTC"⟩
  let events : List DeskEvent := [
    .begin "a" (.submit order (some id)), .resume "a" 0, .accepted "a" response,
    .begin "b" (.cancel id), .resume "b" 0, .acknowledged "b" (some raw),
    .begin "c" (.cancel id), .resume "c" 0]
  let start := opened Venue.ccxt (.immediate 1) ⟨.perSecond 9, by decide, []⟩ none
  (∀ id response, .update id response ∉ events)
  ∧ .called "b" (.cancel target) ∈ start.shown events
  ∧ .called "c" (.cancel target') ∈ start.shown events
  ∧ Venue.ccxt.cancelTarget id (response.insert "symbol" (.str "BTC")) = .ok target
  ∧ Venue.ccxt.cancelTarget id (Venue.ccxt.cancelResponse target (some raw)) = .ok target'
  ∧ Venue.oanda.cancelTarget id response = .ok ⟨id, some "7", none⟩
  ∧ Venue.oanda.cancelTarget id (Venue.oanda.cancelResponse ⟨id, some "7", none⟩ none)
    = .error (.fatal (.missingVenueOrderId id))
  := by
  intro id order response raw target target' events start
  refine ⟨?_, ?_, ?_, ?_, ?_, ?_, ?_⟩
  · intro id response
    simp [events]
  · decide +kernel
  · decide +kernel
  · decide +kernel
  · decide +kernel
  · decide +kernel
  · decide +kernel

end Desk

end OrderDesk
