import OrderDesk.Proofs.Cache.Ownership

/-!
# The life of a call

How one call gets on while the others do.  Only the events with its own ticket move a call; a
call that has returned or has been dropped stays as it is; a call that resolves its id does so
until it settles or is dropped, and never resolves again.  A channel that has an outcome, or is
closed, stays so.
-/

namespace OrderDesk

/-- The ticket of the call that an event is about. -/
def CacheEvent.ticket? : CacheEvent → Option Ticket
  | .remember ticket _ _ => some ticket
  | .settle ticket _ => some ticket
  | .wake ticket => some ticket
  | .abort ticket => some ticket
  | .update _ _ => none

namespace SharedCache

variable {s : SharedCache} {t : Ticket} {id : ClientId} {request : Payload}

/-- The phase of a call. -/
def phase? (s : SharedCache) (t : Ticket) : Option CallPhase := (s.call? t).map CacheCall.phase

@[simp]
theorem phase?_setCall (s : SharedCache) (t : Ticket) (call : CacheCall) (u : Ticket) :
  (s.setCall t call).phase? u = if u = t then some call.phase else s.phase? u
  := by
  rw [phase?, call?_setCall]
  split
  · rfl
  · rfl

theorem phase?_ask (s : SharedCache) (t : Ticket) (id : ClientId) (request : Payload) :
  (s.ask t id request).phase? t = some (phaseOf (s.cache.enter t id (.of request)).2)
  := by
  rw [phase?, call?_ask]
  rfl

theorem phase?_eq_some {phase : CallPhase} :
  s.phase? t = some phase ↔ ∃ id request, s.call? t = some ⟨id, request, phase⟩
  := by
  constructor
  · intro h
    obtain ⟨⟨id, request, _⟩, hcall, rfl⟩ := Option.map_eq_some_iff.1 h
    exact ⟨id, request, hcall⟩
  · rintro ⟨id, request, hcall⟩
    simp [phase?, hcall]

theorem Asks.ticket?_eq {e : CacheEvent} (h : s.Asks t id request e) :
  e.ticket? = some t
  := by
  cases h with
  | first => rfl
  | again => rfl

/-- An event leaves the calls alone that it is not about. -/
theorem call?_step_of_ticket_ne {e : CacheEvent} (h : e.ticket? ≠ some t) :
  (s.step e).call? t = s.call? t
  := by
  have ne {u : Ticket} (hu : e.ticket? = some u) : t ≠ u := by
    rintro rfl
    apply h hu
  have m := s.step_move e
  generalize s.step e = s' at m
  cases m with
  | rest => rfl
  | replay asks => simp [ne asks.ticket?_eq]
  | conflict asks => simp [ne asks.ticket?_eq]
  | join asks => simp [ne asks.ticket?_eq]
  | own asks => simp [ne asks.ticket?_eq]
  | settle => simp [ne rfl]
  | deliver => simp [ne rfl]
  | abandon => simp [ne rfl]
  | leave => simp [ne rfl]
  | update => rfl

/-- A call that waits goes on waiting unless it looks at its channel or is dropped. -/
theorem call?_step_of_waiting {ch : Ticket} {e : CacheEvent}
    (call : s.call? t = some ⟨id, request, .waiting ch⟩) (hwake : e ≠ .wake t)
    (habort : e ≠ .abort t) :
  (s.step e).call? t = some ⟨id, request, .waiting ch⟩
  := by
  by_cases h : e.ticket? = some t
  · cases e with
    | remember u =>
      cases h
      simp [step, remember, call]
    | settle u =>
      cases h
      simp [step, settle, call]
    | wake u =>
      cases h
      exact absurd rfl hwake
    | abort u =>
      cases h
      exact absurd rfl habort
    | update => cases h
  · rw [call?_step_of_ticket_ne h, call]

/-- A call that neither waits nor resolves has come to its end. -/
def HasEnded (s : SharedCache) (t : Ticket) (call : CacheCall) : Prop :=
  s.call? t = some call ∧ call.phase ≠ .resolving ∧ ∀ ch, call.phase ≠ .waiting ch

/-- A call that has come to its end stays as it is. -/
theorem HasEnded.step {call : CacheCall} (h : s.HasEnded t call) (e : CacheEvent) :
  (s.step e).HasEnded t call
  := by
  obtain ⟨hcall, hend⟩ := h
  refine ⟨?_, hend⟩
  obtain ⟨id, request, phase⟩ := call
  by_cases ht : e.ticket? = some t
  · cases phase with
    | waiting ch => exact absurd rfl (hend.2 ch)
    | resolving => exact absurd rfl hend.1
    | returned outcome =>
      cases e <;> cases ht <;>
        simp [SharedCache.step, remember, settle, wake, abort, hcall]
    | dropped =>
      cases e <;> cases ht <;>
        simp [SharedCache.step, remember, settle, wake, abort, hcall]
  · rw [call?_step_of_ticket_ne ht, hcall]

theorem HasEnded.steps {call : CacheCall} (h : s.HasEnded t call) (events : List CacheEvent) :
  (s.steps events).HasEnded t call
  := by
  induction events generalizing s with
  | nil => exact h
  | cons e events ih => apply ih (h.step e)

theorem HasEnded.call?_steps {call : CacheCall} (h : s.HasEnded t call)
    (events : List CacheEvent) :
  (s.steps events).call? t = some call
  := (h.steps events).1

/-- A call that has returned has come to its end. -/
theorem hasEnded_of_returned {outcome : Outcome}
    (call : s.call? t = some ⟨id, request, .returned outcome⟩) :
  s.HasEnded t ⟨id, request, .returned outcome⟩
  := ⟨call, nofun, fun _ => nofun⟩

/-! ### Resolving -/

/-- How an event ends the resolution of a call. -/
def endingOf (t : Ticket) : CacheEvent → Option Channel
  | .settle u outcome => if u = t then some (.settled outcome) else none
  | .abort u => if u = t then some .closed else none
  | _ => none

/-- The state of the channel of a resolving call after events: the first event that settles or
drops the call decides. -/
def channelAfter (t : Ticket) : List CacheEvent → Channel
  | [] => .unsettled
  | e :: events => (endingOf t e).getD (channelAfter t events)

/-- A channel that has an outcome or is closed stays so. -/
theorem Sound.channel?_step_of_ended (h : s.Sound) {ch : Ticket} {channel : Channel}
    (hch : s.cache.channel? ch = some channel) (hended : channel ≠ .unsettled) (e : CacheEvent) :
  (s.step e).cache.channel? ch = some channel
  := by
  -- a call that still resolves its id has another channel
  have ne {u : Ticket} {id : ClientId} {request : Payload}
      (hu : s.call? u = some ⟨id, request, .resolving⟩) : ch ≠ u := by
    rintro rfl
    rw [h.channel hu] at hch
    cases hch
    apply hended rfl
  have m := s.step_move e
  generalize s.step e = s' at m
  cases m with
  | rest => exact hch
  | replay => exact hch
  | conflict => exact hch
  | join => exact hch
  | @own u _ _ _ asks slot =>
    have hne : ch ≠ u := by
      rintro rfl
      rw [h.channel?_of_asks asks] at hch
      cases hch
    simpa [hne] using hch
  | settle outcome call =>
    rw [cache_setCall, cache_setCache, Cache.settle_of_pending (h.slot call)]
    simpa [ne call] using hch
  | deliver => exact hch
  | abandon call =>
    rw [cache_setCall, cache_setCache, Cache.abandon_of_pending (h.slot call)]
    simpa [ne call] using hch
  | leave => exact hch
  | update id response => simpa using hch

theorem Sound.channel?_steps_of_ended (h : s.Sound) {ch : Ticket} {channel : Channel}
    (hch : s.cache.channel? ch = some channel) (hended : channel ≠ .unsettled)
    (events : List CacheEvent) :
  (s.steps events).cache.channel? ch = some channel
  := by
  induction events generalizing s with
  | nil => exact hch
  | cons e events ih => apply ih (h.step e) (h.channel?_step_of_ended hch hended e)

/-- A call goes on resolving through the events that do not end its resolution. -/
theorem call?_step_of_resolving {e : CacheEvent}
    (call : s.call? t = some ⟨id, request, .resolving⟩) (he : endingOf t e = none) :
  (s.step e).call? t = some ⟨id, request, .resolving⟩
  := by
  by_cases h : e.ticket? = some t
  · cases e with
    | remember u =>
      cases h
      simp [step, remember, call]
    | settle u =>
      cases h
      simp [endingOf] at he
    | wake u =>
      cases h
      simp [step, wake, call]
    | abort u =>
      cases h
      simp [endingOf] at he
    | update => cases h
  · rw [call?_step_of_ticket_ne h, call]

/-- The event that ends a resolution leaves its mark on the channel. -/
theorem Sound.channel?_step_of_ending (h : s.Sound) {e : CacheEvent} {channel : Channel}
    (call : s.call? t = some ⟨id, request, .resolving⟩) (he : endingOf t e = some channel) :
  (s.step e).cache.channel? t = some channel
  := by
  cases e with
  | settle u outcome =>
    obtain ⟨rfl, rfl⟩ : u = t ∧ Channel.settled outcome = channel := by
      simpa [endingOf] using he
    rw [step_settle call, Cache.settle_of_pending (h.slot call)]
    simp
  | abort u =>
    obtain ⟨rfl, rfl⟩ : u = t ∧ Channel.closed = channel := by
      simpa [endingOf] using he
    rw [step_abort_of_resolving call, Cache.abandon_of_pending (h.slot call)]
    simp
  | remember => cases he
  | wake => cases he
  | update => cases he

/-- No event ends a resolution and leaves its channel unsettled. -/
theorem endingOf_ne_unsettled (t : Ticket) (e : CacheEvent) :
  endingOf t e ≠ some .unsettled
  := by
  cases e <;> simp [endingOf]

/-- After any events the channel of a call that was resolving is as they decide. -/
theorem Sound.channel?_steps (h : s.Sound) (call : s.call? t = some ⟨id, request, .resolving⟩)
    (events : List CacheEvent) :
  (s.steps events).cache.channel? t = some (channelAfter t events)
  := by
  induction events generalizing s with
  | nil => apply h.channel call
  | cons e events ih =>
    rw [channelAfter]
    rcases he : endingOf t e with _ | channel
    · apply ih (h.step e) (call?_step_of_resolving call he)
    · apply (h.step e).channel?_steps_of_ended (h.channel?_step_of_ending call he)
      rintro rfl
      apply endingOf_ne_unsettled t e he

end SharedCache

end OrderDesk
