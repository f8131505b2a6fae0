import OrderDesk.Proofs.Desk.Precedence
import OrderDesk.Proofs.Desk.Replay
import OrderDesk.Proofs.Desk.Submissions
import OrderDesk.Proofs.Venue.Annotations

/-!
# Submissions identify themselves unless the venue mislabels them

A submission that succeeds returns, annotated, a response that has been cached under its id.  That
is the venue's answer to the accepted order or to the last cancel that was acknowledged, with the id
supplied where the answer carried nothing under the venue's name for it.  A value that the answer
carried there stays, also one that is not an id: then the response does not identify the submission.
-/

namespace OrderDesk

/-- The answer of the venue that is current under an id after what it has granted: that to the last
cancel, and the response to the order if none was acknowledged. -/
def Grant.currentAnswer (history : List Grant) (id : ClientId) (response : Payload) : Payload :=
  match (cancels history id).getLast? with
  | some (_, raw) => raw.getD .empty
  | none => response

namespace Desk

variable {d : Desk} {e : DeskEvent} {t : Ticket} {id : ClientId} {request response : Payload}
  {venue : Venue} {history : List Grant} {events : List DeskEvent}
  {operations : List (Ticket × Operation)}

/-! ### What submissions return -/

theorem submitted_eq_response {outcome : Outcome} :
  d.submitted id request outcome = .ok (.response response)
    ↔ ∃ stored, outcome = .ok stored ∧ response = d.venue.annotate id request stored
  := by
  cases outcome with
  | ok stored => simp [submitted, Except.map, eq_comm]
  | error failure => simp [submitted, Except.map]

/-- An operation that returns a response is a cancel, or it returns, annotated, what its call on the
cache has returned under its id. -/
theorem returned_of_response (begun : d.Begun operations) (assigned : d.Assigned operations)
    (h : .finished t (.ok (.response response)) ∈ (d.step e).2) :
  ∃ operation, (t, operation) ∈ operations ++ (d.begins? e).toList
    ∧ (operation.action = .cancelOrder
      ∨ ∃ id request stored, Puts d.venue id request operation
        ∧ (∃ request', (d.step e).1.shared.call? t = some ⟨id, request', .returned (.ok stored)⟩)
        ∧ response = d.venue.annotate id request stored)
  := by
  have yields := yields_of_finished h
  generalize hresult : Except.ok (Answer.response response) = result at yields
  cases yields with
  | rejected => cases hresult
  | @answered order clientId request outcome complete built answer =>
    have hbegins := begins?_of_finished h
    obtain ⟨-, fresh, unasked⟩ := begins?_eq_some.1 hbegins
    obtain ⟨stored, rfl, hresponse⟩ := submitted_eq_response.1 hresult.symm
    have puts : Puts d.venue (d.resolveId clientId).2 request (.submit order clientId) :=
      .submit complete (d.named_resolveId clientId) built
    refine ⟨_, List.mem_append_right _ (Option.mem_toList.2 hbegins),
      .inr ⟨_, request, stored, puts, ⟨request, ?_⟩, hresponse⟩⟩
    rw [step_submit fresh unasked complete built, shared_followCall]
    rw [call?_remember_of_unasked unasked, ← cache, answer]
    rfl
  | @woken id id' request request' outcome htask hcall =>
    obtain ⟨stored, rfl, hresponse⟩ := submitted_eq_response.1 hresult.symm
    obtain ⟨operation, hmem, puts⟩ := assigned t _ id request htask rfl
    exact ⟨operation, List.mem_append_left _ hmem, .inr ⟨id, request, stored, puts,
      ⟨request', call?_of_woken begun.coupled htask hcall⟩, hresponse⟩⟩
  | @accepted id request n raw htask =>
    obtain ⟨stored, hstored, hresponse⟩ := submitted_eq_response.1 hresult.symm
    cases hstored
    obtain ⟨operation, hmem, puts⟩ := assigned t _ id request htask rfl
    refine ⟨operation, List.mem_append_left _ hmem,
      .inr ⟨id, request, _, puts, ⟨request, ?_⟩, hresponse⟩⟩
    rw [step, htask]
    dsimp only
    rw [(d.settleSubmitted_ends t id request (.ok raw)).shared_eq]
    apply call?_settle (begun.coupled.call_of_submitting htask)
  | acknowledged raw htask =>
    obtain ⟨operation, hmem, haction⟩ := begun.active htask rfl
    exact ⟨operation, List.mem_append_left _ hmem, .inl haction⟩
  | compared => cases hresult
  | failed => cases hresult

/-! ### Responses that have been cached -/

/-- In the run of events the response was cached under the id, after the first of them. -/
def Cached (start : Desk) (id : ClientId) (stored : Payload) (past : List DeskEvent) : Prop :=
  (start.after past).cache.get? id = some stored

/-- A response that a call returns has been cached under its id before. -/
theorem cached_of_returned (hd : d.Coupled) {P : ClientId → Payload → Prop}
    (h : d.shared.Warranted fun id outcome => ∀ stored, outcome = .ok stored → P id stored)
    (held : ∀ past, past <+: events → ∀ id stored, Cached d id stored past → P id stored) :
  (d.after events).shared.Warranted fun id outcome => ∀ stored, outcome = .ok stored → P id stored
  := by
  induction events generalizing d with
  | nil => exact h
  | cons e events ih =>
    rw [after_cons]
    apply ih (hd.step e)
    · apply warranted_step h hd
      · intro id cached hcached stored heq
        cases heq
        exact held [] List.nil_prefix id cached hcached
      · rintro id stored ⟨⟩
      · rintro t id request n response rfl htask stored heq
        cases heq
        -- what is settled is in the cache after the event
        apply held [.accepted t response] ⟨events, rfl⟩ id
        have hentry := entry?_step_of_accepted hd htask response id
        rw [if_pos rfl] at hentry
        rw [Cached, Cache.get?, after_cons]
        exact congrArg (Option.map CacheEntry.response) hentry
      · rintro id failure - stored ⟨⟩
    · intro past hpast id stored hcached
      apply held (e :: past) (List.cons_prefix_cons.2 ⟨rfl, hpast⟩)
      rw [Cached, after_cons]
      exact hcached

/-! ### Answers of the venue -/

/-- A cancel that the venue acknowledges is for the order that its target names. -/
theorem Addressed.of_grants (h : d.Addressed) (hvenue : d.venue = venue) {target : CancelTarget}
    {raw : Option Payload} (hmem : .acknowledged t id target raw ∈ d.grants events) :
  target.clientId = id
  := by
  induction events generalizing d with
  | nil => cases hmem
  | cons e events ih =>
    obtain hmem | hmem := List.mem_append.1 hmem
    · cases granted?_eq_some.1 (Option.mem_toList.1 hmem) with
      | acknowledged raw htask => exact h t id target _ htask
    · exact ih (h.step hvenue e) ((d.venue_step e).trans hvenue) hmem

/-- The response that is current under an id carries the id that the venue's answer carries. -/
theorem lookup?_currentResponse
    (addressed : ∀ t target raw, .acknowledged t id target raw ∈ history → target.clientId = id) :
  ((venue.profile.currentResponse history id request response).lookup? venue.clientIdPath).getD
      id.toValue
    = ((Grant.currentAnswer history id response).lookup? venue.clientIdPath).getD id.toValue
  := by
  rw [VenueProfile.currentResponse, Grant.currentAnswer]
  rcases hlast : (Grant.cancels history id).getLast? with _ | ⟨target, raw⟩
  · change ((venue.annotate id request response).lookup? venue.clientIdPath).getD id.toValue = _
    rw [venue.lookup?_clientIdPath_annotate]
    rfl
  · obtain ⟨t, hmem⟩ := Grant.mem_cancels.1 (List.mem_of_getLast? hlast)
    have h := venue.lookup?_clientIdPath_cancelResponse target raw
    rw [addressed t target raw hmem] at h
    exact h

/-- Submissions identify themselves unless the venue mislabels them.  In every run of events at a
desk, a submission that succeeds goes by the id that it was given or that was generated for it, and
returns, annotated, a response that has been cached under the id in the run.  For the client id it
carries what that response carries, and the id itself if that carries nothing there; so if the id
is not empty, it carries a usable id exactly if what was cached carries one or carries nothing.  As
long as no response is replaced from outside, the same holds of what the venue has answered last
under the id, to the order that it has accepted or to a cancel. -/
theorem submissions_identify_themselves_unless_mislabelled (venue : Venue) (retry : RetryConfig)
    (limiter : RateLimiter) (token : Option Bool) (before : List DeskEvent) (e : DeskEvent)
    (t : Ticket) (order : Order) (clientId : Option ClientId) (response : Payload) :
  let start := opened venue retry limiter token
  (t, .submit order clientId) ∈ start.begun (before ++ [e]) →
  .finished t (.ok (.response response)) ∈ ((start.after before).step e).2 →
    ∃ id request stored past, Puts venue id request (.submit order clientId)
      ∧ past <+: before ++ [e] ∧ start.Cached id stored past
      ∧ response = venue.annotate id request stored
      ∧ venue.CarriesFrom id stored response
      ∧ ((∀ id response, .update id response ∉ past) → ∃ u accepted answer,
          .accepted u id accepted answer ∈ start.grants past
          ∧ venue.CarriesFrom id (Grant.currentAnswer (start.grants past) id answer) response)
  := by
  intro start submits finished
  have hstart : start.Coupled := coupled_opened venue retry limiter token
  have begun : (start.after before).Begun (start.begun before) :=
    ((logged_opened venue retry limiter token).after before).begun
  have unassigned : start.Assigned [] := by
    intro t task id request htask
    cases htask
  have assigned : (start.after before).Assigned (start.begun before) :=
    unassigned.after hstart before
  obtain ⟨operation, hmem, hreturned⟩ := returned_of_response begun assigned finished
  -- the ticket is that of no other operation
  obtain rfl : operation = .submit order clientId := by
    have once := (begun.step e).once
    rw [begun_append, Desk.begun, Desk.begun, List.append_nil] at submits
    exact congrArg Prod.snd (List.inj_on_of_nodup_map once hmem submits rfl)
  obtain ⟨⟨⟩⟩ | ⟨id, request, stored, puts, ⟨request', call⟩, hresponse⟩ := hreturned
  have hvenue (past : List DeskEvent) : (start.after past).venue = venue := venue_after _ past
  have warranted : (start.after (before ++ [e])).shared.Warranted fun id outcome =>
      ∀ stored, outcome = .ok stored →
        ∃ past, past <+: before ++ [e] ∧ start.Cached id stored past :=
    cached_of_returned hstart SharedCache.warranted_empty
      fun past hpast id stored hcached => ⟨past, hpast, hcached⟩
  rw [after_append] at warranted
  obtain ⟨past, hpast, hcached⟩ := warranted t id request' _ call stored rfl
  rw [hvenue] at puts hresponse
  have carries : venue.CarriesFrom id stored response :=
    hresponse ▸ venue.carriesFrom_annotate id request stored
  refine ⟨id, request, stored, past, puts, hpast, hcached, hresponse, carries, ?_⟩
  intro operations
  have recorded : (start.after past).Recorded (start.grants past) :=
    (recorded_opened venue retry limiter token).after operations
  have addressed : start.Addressed := addressed_after venue retry limiter token []
  obtain ⟨entry, hentry, rfl⟩ := Option.map_eq_some_iff.1 hcached
  have stores := recorded.stores id
  rw [hentry, hvenue] at stores
  cases stores with
  | @entry accepted answer orders =>
    obtain ⟨u, hmem⟩ := Grant.mem_orders.1 (orders ▸ List.mem_singleton_self (accepted, answer))
    refine ⟨u, accepted, answer, hmem, Venue.carriesFrom_iff.2 ?_⟩
    rw [carries.value]
    congr 1
    apply lookup?_currentResponse
    intro t target raw hacknowledged
    exact addressed.of_grants rfl hacknowledged

/-- A submission of an order that has been accepted under its id returns the response that is
current under the id. -/
theorem Recorded.shown_of_accepted {profile : VenueProfile} {u : Ticket} {order : Order}
    {answer : Payload} (h : d.Recorded history) (hvenue : d.venue = profile)
    (fresh : d.task? t = none) (complete : order.isComplete = true)
    (built : profile.buildRequest id order = .ok request)
    (hmem : .accepted u id request answer ∈ history) :
  (d.step (.begin t (.submit order (some id)))).2
    = [.finished t (.ok (.response (profile.annotate id request
        (profile.currentResponse history id request answer))))]
  := by
  subst hvenue
  have hentry := (h.stores id).eq_some hmem
  have built' : d.venue.buildRequest (d.resolveId (some id)).2 order = .ok request := built
  have concludes := concludes_of_resolved fresh (h.coupled.call_of_fresh fresh) complete built'
    hentry
  rw [CacheEntry.answer_of, if_pos rfl] at concludes
  exact concludes.shown

/-- An order is accepted at CCXT with nothing but the venue's own order id, cancelled without a
body, and submitted again: the second submission carries the id that it was given. -/
theorem submission_after_cancel_identifies_itself :
  let id : ClientId := ⟨"x"⟩
  let order : Order := .market "BTC" .buy ⟨false, 1, 0, by decide, by decide⟩
  let before : List DeskEvent := [
    .begin "a" (.submit order (some id)), .resume "a" 0,
    .accepted "a" (Payload.empty.insert "id" (.str "7")),
    .begin "b" (.cancel id), .resume "b" 0, .acknowledged "b" none]
  let e : DeskEvent := .begin "c" (.submit order (some id))
  let start := opened Venue.ccxt (.immediate 1) ⟨.perSecond 9, by decide, []⟩ none
  let response := Venue.ccxt.cancelResponse ⟨id, some "7", some "BTC"⟩ none
  ("c", .submit order (some id)) ∈ start.begun (before ++ [e])
  ∧ .finished "c" (.ok (.response response)) ∈ ((start.after before).step e).2
  ∧ Venue.ccxt.clientToken? response = some "x"
  ∧ ∃ past u accepted answer, .accepted u id accepted answer ∈ start.grants past
      ∧ Venue.ccxt.CarriesFrom id (Grant.currentAnswer (start.grants past) id answer) response
  := by
  intro id order before e start response
  let request := (Venue.ccxt.buildRequest id order).toOption.getD .empty
  have operations {past : List DeskEvent} (hpast : past ⊆ before ++ [e]) (id : ClientId)
      (response : Payload) : .update id response ∉ past := by
    intro hmem
    have h := hpast hmem
    simp [before, e] at h
  have submits : ("c", .submit order (some id)) ∈ start.begun (before ++ [e]) := by
    decide +kernel
  have finished : .finished "c" (.ok (.response response)) ∈ ((start.after before).step e).2 := by
    have recorded := (recorded_opened Venue.ccxt (.immediate 1) ⟨.perSecond 9, by decide, []⟩
      none).after (operations (List.subset_append_left before [e]))
    have hgrants : start.grants before = [
        .accepted "a" id request (Payload.empty.insert "id" (.str "7")),
        .acknowledged "b" id ⟨id, some "7", some "BTC"⟩ none] := by decide +kernel
    have built : Venue.ccxt.profile.buildRequest id order = .ok request := by decide +kernel
    rw [recorded.shown_of_accepted (venue_after _ before) (by decide +kernel) rfl built
      (hgrants ▸ List.mem_cons_self)]
    decide +kernel
  obtain ⟨_, request, stored, past, puts, hpast, -, -, -, hanswer⟩ :=
    submissions_identify_themselves_unless_mislabelled .ccxt (.immediate 1)
      ⟨.perSecond 9, by decide, []⟩ none before e "c" order (some id) response submits finished
  obtain ⟨-, ⟨⟩, -⟩ := puts
  obtain ⟨u, accepted, answer, hmem, carries⟩ := hanswer (operations hpast.subset)
  exact ⟨submits, finished, by decide +kernel, past, u, accepted, answer, hmem, carries⟩

/-- Alpaca accepts an order and has `null` under its name for the client id, and CCXT acknowledges a
cancel with an empty text there, after which the order is submitted again: the responses that are
returned carry no usable id, although the submissions were given one. -/
theorem mislabelled_submissions_do_not_identify_themselves :
  let id : ClientId := ⟨"x"⟩
  let order : Order := .market "BTC" .buy ⟨false, 1, 0, by decide, by decide⟩
  let submits : List DeskEvent := [.begin "a" (.submit order (some id)), .resume "a" 0]
  let nulled := Payload.empty.insert "client_order_id" .null
  let emptied := Payload.empty.insert "clientOrderId" (.str "")
  let cancels : List DeskEvent := [.accepted "a" (Payload.empty.insert "id" (.str "7")),
    .begin "b" (.cancel id), .resume "b" 0, .acknowledged "b" (some emptied)]
  let start (venue : Venue) := opened venue (.immediate 1) ⟨.perSecond 9, by decide, []⟩ none
  id.text ≠ ""
  ∧ (∃ response, (((start .alpaca).after submits).step (.accepted "a" nulled)).2
        = [.finished "a" (.ok (.response response))]
      ∧ Venue.alpaca.clientToken? response = none)
  ∧ ∃ response, (((start .ccxt).after (submits ++ cancels)).step
          (.begin "c" (.submit order (some id)))).2
        = [.finished "c" (.ok (.response response))]
      ∧ Venue.ccxt.clientToken? response = none
  := by
  intro id order submits nulled emptied cancels start
  let request := (Venue.ccxt.buildRequest id order).toOption.getD .empty
  refine ⟨by decide, ⟨nulled, by decide +kernel, by decide +kernel⟩, ?_⟩
  have operations : ∀ id response, .update id response ∉ submits ++ cancels := by
    intro id response
    simp [submits, cancels]
  have recorded := (recorded_opened Venue.ccxt (.immediate 1) ⟨.perSecond 9, by decide, []⟩
    none).after operations
  have hgrants : (start .ccxt).grants (submits ++ cancels) = [
      .accepted "a" id request (Payload.empty.insert "id" (.str "7")),
      .acknowledged "b" id ⟨id, some "7", some "BTC"⟩ (some emptied)] := by decide +kernel
  have built : Venue.ccxt.profile.buildRequest id order = .ok request := by decide +kernel
  refine ⟨_, recorded.shown_of_accepted (venue_after _ _) (by decide +kernel) rfl built
    (hgrants ▸ List.mem_cons_self), ?_⟩
  decide +kernel

end Desk

end OrderDesk
