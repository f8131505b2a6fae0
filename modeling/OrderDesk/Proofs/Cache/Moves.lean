import OrderDesk.Cache.Shared
import OrderDesk.Proofs.Cache.Slots

/-!
# The moves of a shared cache

What an event can do to a shared cache, as a relation: `Move s e s'` has one constructor for
each way in which a call gets on, and `step_move` says that every step is a move.  Statements
about all events are proved by cases on the move.
-/

namespace OrderDesk

namespace SharedCache

/-- In the event a call asks for an id: a new call, or one that was waiting on a channel that
has been closed. -/
inductive Asks (s : SharedCache) (ticket : Ticket) (id : ClientId) (request : Payload) :
    CacheEvent → Prop where
  | first (free : s.call? ticket = none) : Asks s ticket id request (.remember ticket id request)
  | again {channel : Ticket} (waits : s.call? ticket = some ⟨id, request, .waiting channel⟩)
      (closed : s.cache.channel? channel = some .closed) : Asks s ticket id request (.wake ticket)

/-- The cache and its calls after an event. -/
inductive Move (s : SharedCache) : CacheEvent → SharedCache → Prop where
  /-- The event fits no call. -/
  | rest (e : CacheEvent) : Move s e s
  /-- The id is resolved, and the call returns at once. -/
  | replay {t id request e entry} (asks : s.Asks t id request e)
      (slot : s.cache.slot? id = some (.resolved entry)) :
      Move s e (s.setCall t ⟨id, request, .returned (entry.answer id (.of request))⟩)
  /-- The id is being resolved for another request. -/
  | conflict {t id request e fingerprint channel} (asks : s.Asks t id request e)
      (slot : s.cache.slot? id = some (.pending fingerprint channel))
      (differs : fingerprint ≠ .of request) :
      Move s e (s.setCall t ⟨id, request, .returned (.error (.fatal (.orderConflict id)))⟩)
  /-- The id is being resolved for the same request. -/
  | join {t id request e channel} (asks : s.Asks t id request e)
      (slot : s.cache.slot? id = some (.pending (.of request) channel)) :
      Move s e (s.setCall t ⟨id, request, .waiting channel⟩)
  /-- The id has no slot, and the call resolves it. -/
  | own {t id request e} (asks : s.Asks t id request e) (slot : s.cache.slot? id = none) :
      Move s e ((s.setCache ((s.cache.setSlot id (.pending (.of request) t)).setChannel t
        .unsettled)).setCall t ⟨id, request, .resolving⟩)
  /-- The call that resolves an id has its outcome. -/
  | settle {t id request} (outcome : Outcome)
      (call : s.call? t = some ⟨id, request, .resolving⟩) :
      Move s (.settle t outcome) ((s.setCache (s.cache.settle id (.of request) outcome)).setCall t
        ⟨id, request, .returned outcome⟩)
  /-- A waiting call finds an outcome on its channel. -/
  | deliver {t id request channel outcome}
      (call : s.call? t = some ⟨id, request, .waiting channel⟩)
      (settled : s.cache.channel? channel = some (.settled outcome)) :
      Move s (.wake t) (s.setCall t ⟨id, request, .returned outcome⟩)
  /-- The call that resolves an id is dropped. -/
  | abandon {t id request} (call : s.call? t = some ⟨id, request, .resolving⟩) :
      Move s (.abort t) ((s.setCache (s.cache.abandon id)).setCall t ⟨id, request, .dropped⟩)
  /-- A waiting call is dropped. -/
  | leave {t id request channel} (call : s.call? t = some ⟨id, request, .waiting channel⟩) :
      Move s (.abort t) (s.setCall t ⟨id, request, .dropped⟩)
  | update (id : ClientId) (response : Payload) :
      Move s (.update id response) (s.setCache (s.cache.update id response))

variable {s : SharedCache} {t : Ticket} {id : ClientId} {request : Payload}

theorem Asks.step_eq {e : CacheEvent} (asks : s.Asks t id request e) :
  s.step e = s.ask t id request
  := by
  cases asks with
  | first free => rw [step, remember, free]
  | again waits closed =>
    rw [step, wake, waits]
    simp only [closed]

/-- A waiting call whose channel has an outcome returns it when it looks. -/
theorem step_wake_of_settled {channel : Ticket} {outcome : Outcome}
    (call : s.call? t = some ⟨id, request, .waiting channel⟩)
    (settled : s.cache.channel? channel = some (.settled outcome)) :
  s.step (.wake t) = s.setCall t ⟨id, request, .returned outcome⟩
  := by
  rw [step, wake, call]
  simp only [settled]

/-- A waiting call that looks at an unsettled channel goes on waiting. -/
theorem step_wake_of_unsettled {channel : Ticket}
    (call : s.call? t = some ⟨id, request, .waiting channel⟩)
    (unsettled : s.cache.channel? channel = some .unsettled) :
  s.step (.wake t) = s
  := by
  rw [step, wake, call]
  simp only [unsettled]

theorem step_settle (call : s.call? t = some ⟨id, request, .resolving⟩) (outcome : Outcome) :
  s.step (.settle t outcome) = (s.setCache (s.cache.settle id (.of request) outcome)).setCall t
    ⟨id, request, .returned outcome⟩
  := by
  rw [step, settle, call]

theorem step_abort_of_resolving (call : s.call? t = some ⟨id, request, .resolving⟩) :
  s.step (.abort t) = (s.setCache (s.cache.abandon id)).setCall t ⟨id, request, .dropped⟩
  := by
  rw [step, abort, call]

theorem step_abort_of_waiting {channel : Ticket}
    (call : s.call? t = some ⟨id, request, .waiting channel⟩) :
  s.step (.abort t) = s.setCall t ⟨id, request, .dropped⟩
  := by
  rw [step, abort, call]

/-- The phase of a call that has asked is the one that it found the slot of its id in. -/
theorem call?_ask (s : SharedCache) (t : Ticket) (id : ClientId) (request : Payload) :
  (s.ask t id request).call? t
    = some ⟨id, request, phaseOf (s.cache.enter t id (.of request)).2⟩
  := by
  rw [ask, call?_setCall, if_pos rfl]

theorem phaseOf_eq_waiting {entrance : Entrance} {channel : Ticket} :
  phaseOf entrance = .waiting channel ↔ entrance = .waits channel
  := by
  cases entrance with
  | answered => simp [phaseOf]
  | waits => simp [phaseOf]
  | resolves => simp [phaseOf]

theorem phaseOf_eq_resolving {entrance : Entrance} :
  phaseOf entrance = .resolving ↔ entrance = .resolves
  := by
  cases entrance with
  | answered => simp [phaseOf]
  | waits => simp [phaseOf]
  | resolves => simp [phaseOf]

theorem phaseOf_ne_dropped (entrance : Entrance) :
  phaseOf entrance ≠ .dropped
  := by
  cases entrance with
  | answered => simp [phaseOf]
  | waits => simp [phaseOf]
  | resolves => simp [phaseOf]

/-- A call that asks gets on as the slot of its id says. -/
theorem ask_move {e : CacheEvent} (asks : s.Asks t id request e) :
  Move s e (s.ask t id request)
  := by
  rw [ask]
  rcases hslot : s.cache.slot? id with _ | ⟨fingerprint, channel⟩ | entry
  · rw [Cache.enter_of_free hslot]
    exact .own asks hslot
  · by_cases hf : fingerprint = .of request
    · subst hf
      rw [Cache.enter_of_pending hslot]
      exact .join asks hslot
    · rw [Cache.enter_of_conflict hslot hf]
      exact .conflict asks hslot hf
  · rw [Cache.enter_of_resolved hslot]
    exact .replay asks hslot

/-- Every step is a move. -/
theorem step_move (s : SharedCache) (e : CacheEvent) :
  Move s e (s.step e)
  := by
  cases e with
  | remember t id request =>
    rw [step, remember]
    split
    next free => apply ask_move (.first free)
    next => exact .rest _
  | settle t outcome =>
    rw [step, settle]
    split
    next call h =>
      obtain ⟨id, request, phase⟩ := call
      cases phase with
      | resolving => exact .settle outcome h
      | _ => exact .rest _
    next => exact .rest _
  | wake t =>
    rw [step, wake]
    split
    next call h =>
      obtain ⟨id, request, phase⟩ := call
      cases phase with
      | waiting channel =>
        dsimp only
        split
        next settled => exact .deliver h settled
        next closed => apply ask_move (.again h closed)
        next => exact .rest _
      | _ => exact .rest _
    next => exact .rest _
  | abort t =>
    rw [step, abort]
    split
    next call h =>
      obtain ⟨id, request, phase⟩ := call
      cases phase with
      | resolving => exact .abandon h
      | waiting channel => exact .leave h
      | _ => exact .rest _
    next => exact .rest _
  | update id response => exact .update id response

end SharedCache

end OrderDesk
