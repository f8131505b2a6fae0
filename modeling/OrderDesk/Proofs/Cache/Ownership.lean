import Mathlib.Logic.ExistsUnique
import Mathlib.Tactic.Use
import OrderDesk.Proofs.Cache.Moves
import OrderDesk.Proofs.Cache.Slots

/-!
# Who owns a slot

A shared cache consists of three pieces: the slots of the ids, the channels, and the calls with
their phases.  `Sound` says how they fit together in every state that a run of events leads to:
a pending slot belongs to the one call that resolves its id, a channel records how far the call
is that it belongs to, and a waiting call holds the channel of a call for the same id and
fingerprint.  So no id is blocked by a call that is gone, and no call waits for an outcome that
will never come.
-/

namespace OrderDesk

/-- A channel tells in which phase the call is that it belongs to. -/
def Channel.Records : Channel → CallPhase → Prop
  | .unsettled, phase => phase = .resolving
  | .settled outcome, phase => phase = .returned outcome
  | .closed, phase => phase = .dropped

namespace SharedCache

/-- The call is live and runs its resolver for the id. -/
def Resolves (s : SharedCache) (t : Ticket) (id : ClientId) : Prop :=
  ∃ request, s.call? t = some ⟨id, request, .resolving⟩

/-- The slots, the channels and the calls fit together. -/
structure Sound (s : SharedCache) : Prop where
  /-- The channel of a pending slot belongs to the call that resolves the id. -/
  owner {id : ClientId} {fingerprint : Fingerprint} {t : Ticket}
    (h : s.cache.slot? id = some (.pending fingerprint t)) :
    ∃ request, fingerprint = .of request ∧ s.call? t = some ⟨id, request, .resolving⟩
  /-- A call that resolves an id owns its slot. -/
  slot {t : Ticket} {id : ClientId} {request : Payload}
    (h : s.call? t = some ⟨id, request, .resolving⟩) :
    s.cache.slot? id = some (.pending (.of request) t)
  /-- A call that resolves an id has a channel. -/
  channel {t : Ticket} {id : ClientId} {request : Payload}
    (h : s.call? t = some ⟨id, request, .resolving⟩) :
    s.cache.channel? t = some .unsettled
  /-- A channel records the phase of its call. -/
  record {t : Ticket} {channel : Channel} (h : s.cache.channel? t = some channel) :
    ∃ call, s.call? t = some call ∧ channel.Records call.phase
  /-- A waiting call holds the channel of a call for the same id and fingerprint. -/
  waiter {t : Ticket} {id : ClientId} {request : Payload} {ch : Ticket}
    (h : s.call? t = some ⟨id, request, .waiting ch⟩) :
    ∃ request' phase, s.call? ch = some ⟨id, request', phase⟩ ∧
      Fingerprint.of request' = .of request ∧ ∃ channel, s.cache.channel? ch = some channel

variable {s : SharedCache}

theorem sound_empty :
  empty.Sound
  where
  owner h := by cases h
  slot h := by cases h
  channel h := by cases h
  record h := by cases h
  waiter h := by cases h

namespace Sound

/-- A call that waits has no channel of its own. -/
theorem channel?_of_waiting (h : s.Sound) {t : Ticket} {id : ClientId} {request : Payload}
    {ch : Ticket} (call : s.call? t = some ⟨id, request, .waiting ch⟩) :
  s.cache.channel? t = none
  := by
  rcases hch : s.cache.channel? t with _ | channel
  · rfl
  · obtain ⟨call', hcall, hrecord⟩ := h.record hch
    rw [call] at hcall
    cases hcall
    cases channel <;> cases hrecord

/-- A ticket that is not in use has no channel. -/
theorem channel?_of_free (h : s.Sound) {t : Ticket} (free : s.call? t = none) :
  s.cache.channel? t = none
  := by
  rcases hch : s.cache.channel? t with _ | channel
  · rfl
  · obtain ⟨call, hcall, -⟩ := h.record hch
    rw [free] at hcall
    cases hcall

/-- A call that asks for an id has no channel yet. -/
theorem channel?_of_asks (h : s.Sound) {t : Ticket} {id : ClientId} {request : Payload}
    {e : CacheEvent} (asks : s.Asks t id request e) :
  s.cache.channel? t = none
  := by
  cases asks with
  | first free => apply h.channel?_of_free free
  | again waits closed => apply h.channel?_of_waiting waits

/-- A call without a channel may go on to any phase but resolving, on the same cache, if the
channel it waits on belongs to a call for the same id and fingerprint. -/
theorem setCall (h : s.Sound) {t : Ticket} (hch : s.cache.channel? t = none) {call : CacheCall}
    (hphase : call.phase ≠ .resolving)
    (hwait : ∀ ch, call.phase = .waiting ch →
      s.cache.slot? call.id = some (.pending (.of call.request) ch)) :
  (s.setCall t call).Sound
  := by
  -- whoever has a channel is another call, and is left alone
  have keeps {u : Ticket} {channel : Channel} (hu : s.cache.channel? u = some channel) :
      (s.setCall t call).call? u = s.call? u := by
    rw [call?_setCall, if_neg]
    rintro rfl
    rw [hch] at hu
    cases hu
  have resolves {u : Ticket} {id : ClientId} {request : Payload}
      (hu : (s.setCall t call).call? u = some ⟨id, request, .resolving⟩) :
      s.call? u = some ⟨id, request, .resolving⟩ := by
    rw [call?_setCall] at hu
    split at hu
    · cases hu
      exact absurd rfl hphase
    · exact hu
  constructor
  case owner =>
    intro id fingerprint u hu
    obtain ⟨request, hf, hcall⟩ := h.owner hu
    exact ⟨request, hf, (keeps (h.channel hcall)).trans hcall⟩
  case slot =>
    intro u id request hu
    apply h.slot (resolves hu)
  case channel =>
    intro u id request hu
    apply h.channel (resolves hu)
  case record =>
    intro u channel hu
    obtain ⟨call', hcall, hrecord⟩ := h.record hu
    exact ⟨call', (keeps hu).trans hcall, hrecord⟩
  case waiter =>
    intro u id request ch hu
    rw [call?_setCall] at hu
    split at hu
    · cases hu
      obtain ⟨request', hf, hcall⟩ := h.owner (hwait ch rfl)
      have hopen := h.channel hcall
      exact ⟨request', .resolving, (keeps hopen).trans hcall, hf.symm, _, hopen⟩
    · obtain ⟨request', phase, hcall, hf, channel, hopen⟩ := h.waiter hu
      exact ⟨request', phase, (keeps hopen).trans hcall, hf, channel, hopen⟩

/-- A call without a channel may take a free slot. -/
theorem own (h : s.Sound) {t : Ticket} {id : ClientId} {request : Payload}
    (hch : s.cache.channel? t = none) (free : s.cache.slot? id = none) :
  ((s.setCache ((s.cache.setSlot id (.pending (.of request) t)).setChannel t
    .unsettled)).setCall t ⟨id, request, .resolving⟩).Sound
  := by
  have ne {u : Ticket} {channel : Channel} (hu : s.cache.channel? u = some channel) : u ≠ t := by
    rintro rfl
    rw [hch] at hu
    cases hu
  constructor
  case owner =>
    intro other fingerprint u hu
    simp only [cache_setCall, cache_setCache, Cache.slot?_setChannel, Cache.slot?_setSlot] at hu
    split at hu
    next heq =>
      cases hu
      exact ⟨request, rfl, by simp [heq]⟩
    next =>
      obtain ⟨request', hf, hcall⟩ := h.owner hu
      exact ⟨request', hf, by simpa [ne (h.channel hcall)] using hcall⟩
  case slot =>
    intro u other request' hu
    simp only [call?_setCall, call?_setCache] at hu
    simp only [cache_setCall, cache_setCache, Cache.slot?_setChannel, Cache.slot?_setSlot]
    split at hu
    next heq =>
      cases hu
      simp [heq]
    next =>
      have hslot := h.slot hu
      have hne : other ≠ id := by
        rintro rfl
        rw [free] at hslot
        cases hslot
      simpa [hne] using hslot
  case channel =>
    intro u other request' hu
    simp only [call?_setCall, call?_setCache] at hu
    simp only [cache_setCall, cache_setCache, Cache.channel?_setChannel, Cache.channel?_setSlot]
    split at hu
    next heq => rw [if_pos heq]
    next hne =>
      rw [if_neg hne]
      apply h.channel hu
  case record =>
    intro u channel hu
    simp only [cache_setCall, cache_setCache, Cache.channel?_setChannel,
      Cache.channel?_setSlot] at hu
    split at hu
    next heq =>
      cases hu
      exact ⟨⟨id, request, .resolving⟩, by simp [heq], rfl⟩
    next hne =>
      obtain ⟨call, hcall, hrecord⟩ := h.record hu
      exact ⟨call, by simpa [hne] using hcall, hrecord⟩
  case waiter =>
    intro u other request' ch hu
    simp only [call?_setCall, call?_setCache] at hu
    split at hu
    · cases hu
    · obtain ⟨owner, phase, hcall, hf, channel, hopen⟩ := h.waiter hu
      have hne := ne hopen
      exact ⟨owner, phase, by simpa [hne] using hcall, hf, channel, by simpa [hne] using hopen⟩

/-- The call that resolves an id may end, if its slot is no longer pending and its channel
records how it ended. -/
theorem finish (h : s.Sound) {t : Ticket} {id : ClientId} {request : Payload}
    (call : s.call? t = some ⟨id, request, .resolving⟩) (channel : Channel)
    {cache : Cache} {phase : CallPhase}
    (hother : ∀ other, other ≠ id → cache.slot? other = s.cache.slot? other)
    (hid : ∀ fingerprint u, cache.slot? id ≠ some (.pending fingerprint u))
    (hch : ∀ u, cache.channel? u = if u = t then some channel else s.cache.channel? u)
    (hrecord : channel.Records phase) (hphase : phase ≠ .resolving) :
  ((s.setCache cache).setCall t ⟨id, request, phase⟩).Sound
  := by
  constructor
  case owner =>
    intro other fingerprint u hu
    have hne : other ≠ id := by
      rintro rfl
      apply hid fingerprint u hu
    obtain ⟨request', hf, hcall⟩ := h.owner ((hother other hne).symm.trans hu)
    have hut : u ≠ t := by
      rintro rfl
      rw [call] at hcall
      cases hcall
      apply hne rfl
    exact ⟨request', hf, by simpa [hut] using hcall⟩
  case slot =>
    intro u other request' hu
    simp only [call?_setCall, call?_setCache] at hu
    split at hu
    · cases hu
      exact absurd rfl hphase
    next hut =>
      have hslot := h.slot hu
      have hne : other ≠ id := by
        rintro rfl
        simp only [h.slot call, Option.some.injEq, Slot.pending.injEq] at hslot
        apply hut hslot.2.symm
      exact (hother other hne).trans hslot
  case channel =>
    intro u other request' hu
    simp only [call?_setCall, call?_setCache] at hu
    split at hu
    · cases hu
      exact absurd rfl hphase
    next hut =>
      apply Eq.trans (hch u)
      rw [if_neg hut]
      apply h.channel hu
  case record =>
    intro u channel' hu
    have hu : cache.channel? u = some channel' := hu
    rw [hch] at hu
    split at hu
    next heq =>
      cases hu
      exact ⟨⟨id, request, phase⟩, by simp [heq], hrecord⟩
    next hut =>
      obtain ⟨call', hcall, hrec⟩ := h.record hu
      exact ⟨call', by simpa [hut] using hcall, hrec⟩
  case waiter =>
    intro u other request' ch hu
    simp only [call?_setCall, call?_setCache] at hu
    split at hu
    · -- a call with a channel does not wait
      cases hu
      cases channel <;> cases hrecord
    · obtain ⟨owner, phase', hcall, hf, channel', hopen⟩ := h.waiter hu
      by_cases hcht : ch = t
      · subst hcht
        rw [call] at hcall
        cases hcall
        exact ⟨request, phase, by simp, hf, channel, (hch ch).trans (if_pos rfl)⟩
      · exact ⟨owner, phase', by simpa [hcht] using hcall, hf, channel',
          ((hch ch).trans (if_neg hcht)).trans hopen⟩

theorem settle (h : s.Sound) {t : Ticket} {id : ClientId} {request : Payload}
    (call : s.call? t = some ⟨id, request, .resolving⟩) (outcome : Outcome) :
  ((s.setCache (s.cache.settle id (.of request) outcome)).setCall t
    ⟨id, request, .returned outcome⟩).Sound
  := by
  rw [Cache.settle_of_pending (h.slot call)]
  apply h.finish call (.settled outcome)
  · intro other hne
    simp [hne]
  · intro fingerprint u
    simpa using Cache.slotOf_ne_pending outcome
  · intro u
    simp
  · rfl
  · exact nofun

theorem abandon (h : s.Sound) {t : Ticket} {id : ClientId} {request : Payload}
    (call : s.call? t = some ⟨id, request, .resolving⟩) :
  ((s.setCache (s.cache.abandon id)).setCall t ⟨id, request, .dropped⟩).Sound
  := by
  rw [Cache.abandon_of_pending (h.slot call)]
  apply h.finish call .closed
  · intro other hne
    simp [hne]
  · intro fingerprint u
    simp
  · intro u
    simp
  · rfl
  · exact nofun

/-- Replacing a response touches no pending slot. -/
theorem update (h : s.Sound) (id : ClientId) (response : Payload) :
  (s.setCache (s.cache.update id response)).Sound
  := by
  constructor
  case owner =>
    intro other fingerprint u hu
    apply h.owner ((Cache.update_pending_iff s.cache id response other).1 hu)
  case slot =>
    intro u other request hu
    exact (Cache.update_pending_iff s.cache id response other).2 (h.slot hu)
  case channel =>
    intro u other request hu
    exact (Cache.channel?_update s.cache id response u).trans (h.channel hu)
  case record =>
    intro u channel hu
    apply h.record ((Cache.channel?_update s.cache id response u).symm.trans hu)
  case waiter =>
    intro u other request ch hu
    obtain ⟨owner, phase, hcall, hf, channel, hopen⟩ := h.waiter hu
    exact ⟨owner, phase, hcall, hf, channel,
      (Cache.channel?_update s.cache id response ch).trans hopen⟩

theorem move (h : s.Sound) {e : CacheEvent} {s' : SharedCache} (m : Move s e s') :
  s'.Sound
  := by
  cases m with
  | rest => exact h
  | replay asks slot => exact h.setCall (h.channel?_of_asks asks) nofun (fun _ => nofun)
  | conflict asks slot differs =>
    exact h.setCall (h.channel?_of_asks asks) nofun (fun _ => nofun)
  | join asks slot =>
    apply h.setCall (h.channel?_of_asks asks)
    · exact nofun
    · intro ch heq
      cases heq
      exact slot
  | own asks slot => exact h.own (h.channel?_of_asks asks) slot
  | settle outcome call => exact h.settle call outcome
  | deliver call settled => exact h.setCall (h.channel?_of_waiting call) nofun (fun _ => nofun)
  | abandon call => exact h.abandon call
  | leave call => exact h.setCall (h.channel?_of_waiting call) nofun (fun _ => nofun)
  | update id response => exact h.update id response

theorem step (h : s.Sound) (e : CacheEvent) :
  (s.step e).Sound
  := h.move (s.step_move e)

theorem steps (h : s.Sound) (events : List CacheEvent) :
  (s.steps events).Sound
  := by
  induction events generalizing s with
  | nil => exact h
  | cons e events ih => apply ih (h.step e)

end Sound

/-- Every run of events on an empty cache leads to a sound state. -/
theorem sound_steps (events : List CacheEvent) :
  (empty.steps events).Sound
  := sound_empty.steps events

/-! ### Slots and waiting calls -/

namespace Sound

/-- The channel in the pending slot of an id is that of the call that resolves the id. -/
theorem resolves_iff (h : s.Sound) (t : Ticket) (id : ClientId) :
  s.Resolves t id ↔ ∃ fingerprint, s.cache.slot? id = some (.pending fingerprint t)
  := by
  constructor
  · rintro ⟨request, call⟩
    use .of request
    apply h.slot call
  · rintro ⟨fingerprint, slot⟩
    obtain ⟨request, -, call⟩ := h.owner slot
    use request

/-- At most one call resolves an id. -/
theorem resolves_unique (h : s.Sound) {t u : Ticket} {id : ClientId} (ht : s.Resolves t id)
    (hu : s.Resolves u id) :
  t = u
  := by
  obtain ⟨fingerprint, ht⟩ := (h.resolves_iff t id).1 ht
  obtain ⟨fingerprint', hu⟩ := (h.resolves_iff u id).1 hu
  rw [ht] at hu
  cases hu
  rfl

/-- An id has a pending slot exactly if exactly one call resolves it. -/
theorem pending_iff (h : s.Sound) (id : ClientId) :
  (∃ fingerprint ch, s.cache.slot? id = some (.pending fingerprint ch)) ↔ ∃! t, s.Resolves t id
  := by
  constructor
  · rintro ⟨fingerprint, t, slot⟩
    have ht : s.Resolves t id := (h.resolves_iff t id).2 ⟨fingerprint, slot⟩
    exact ⟨t, ht, fun u hu => h.resolves_unique hu ht⟩
  · rintro ⟨t, ht, -⟩
    obtain ⟨fingerprint, slot⟩ := (h.resolves_iff t id).1 ht
    exact ⟨fingerprint, t, slot⟩

/-- While no call resolves an id, no slot is pending. -/
theorem slot?_ne_pending (h : s.Sound) (idle : ∀ t id, ¬s.Resolves t id) (id : ClientId)
    (fingerprint : Fingerprint) (ch : Ticket) :
  s.cache.slot? id ≠ some (.pending fingerprint ch)
  := by
  intro slot
  apply idle ch id ((h.resolves_iff ch id).2 ⟨fingerprint, slot⟩)

/-- The channel that a call waits on is in the pending slot of its id, for its own fingerprint,
or has an outcome, or is closed. -/
theorem waiting_cases (h : s.Sound) {t : Ticket} {id : ClientId} {request : Payload}
    {ch : Ticket} (call : s.call? t = some ⟨id, request, .waiting ch⟩) :
  s.cache.slot? id = some (.pending (.of request) ch)
    ∨ (∃ outcome, s.cache.channel? ch = some (.settled outcome))
    ∨ s.cache.channel? ch = some .closed
  := by
  obtain ⟨request', phase, owner, hf, channel, hopen⟩ := h.waiter call
  cases channel with
  | unsettled =>
    left
    obtain ⟨call', hcall, hrecord⟩ := h.record hopen
    rw [owner] at hcall
    cases hcall
    cases hrecord
    rw [h.slot owner, hf]
  | settled outcome => exact .inr (.inl ⟨outcome, hopen⟩)
  | closed => exact .inr (.inr hopen)

end Sound

/-- A call that waits on a channel that has come to its end gets on when it looks. -/
theorem canWake_of_ended {t ch : Ticket} {id : ClientId} {request : Payload}
    (call : s.call? t = some ⟨id, request, .waiting ch⟩)
    (ended : (∃ outcome, s.cache.channel? ch = some (.settled outcome))
      ∨ s.cache.channel? ch = some .closed) :
  s.canWake t = true
  := by
  obtain ⟨outcome, settled⟩ | closed := ended
  · simp [canWake, call, settled]
  · simp [canWake, call, closed]

/-- A call that asks while no call resolves its id does not have to wait. -/
theorem call?_ask_of_free {t : Ticket} {id : ClientId} {request : Payload}
    (free : ∀ fingerprint ch, s.cache.slot? id ≠ some (.pending fingerprint ch)) :
  ∃ phase, (s.ask t id request).call? t = some ⟨id, request, phase⟩
    ∧ ∀ ch, phase ≠ .waiting ch
  := by
  refine ⟨_, s.call?_ask t id request, ?_⟩
  rcases hslot : s.cache.slot? id with _ | ⟨fingerprint, ch⟩ | entry
  · rw [Cache.enter_of_free hslot]
    simp [phaseOf]
  · exact absurd hslot (free fingerprint ch)
  · rw [Cache.enter_of_resolved hslot]
    simp [phaseOf]

end SharedCache

end OrderDesk
