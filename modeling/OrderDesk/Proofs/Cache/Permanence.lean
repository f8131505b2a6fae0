import Mathlib.Tactic.Use
import OrderDesk.Proofs.Cache.Calls

/-!
# Resolved ids are permanent

An id becomes resolved when the call that resolves it settles with a response, or when a response
is put under it while it has no slot.  From then on it keeps its entry, except that its response
may be replaced: a settlement and an abandonment only ever hit the slot of a call that is
resolving, and that slot is pending.
-/

namespace OrderDesk

namespace Cache

variable {c : Cache} {id : ClientId} {entry : CacheEntry}

theorem mem_keys :
  id ∈ c.keys ↔ ∃ entry, c.slot? id = some (.resolved entry)
  := by
  rw [keys, List.mem_filterMap]
  constructor
  · rintro ⟨⟨key, slot⟩, hmem, heq⟩
    cases slot with
    | pending => cases heq
    | resolved entry =>
      cases heq
      use entry
      apply c.slots.ascending.mem_iff.1
      exact hmem
  · rintro ⟨entry, slot⟩
    refine ⟨(id.text, .resolved entry), ?_, rfl⟩
    apply c.slots.ascending.mem_iff.2
    exact slot

theorem entry?_eq_some :
  c.entry? id = some entry ↔ c.slot? id = some (.resolved entry)
  := by
  rw [Cache.entry?]
  rcases c.slot? id with _ | ⟨_ | entry'⟩
  · simp
  · simp
  · simp

/-- Replacing the response of a resolved id changes nothing else. -/
theorem entry?_update_of_resolved (slot : c.slot? id = some (.resolved entry))
    (response : Payload) (other : ClientId) :
  Cache.entry? (c.update id response) other
    = if other = id then some { entry with response } else c.entry? other
  := by
  rw [Cache.entry?, slot?_update, slot]
  by_cases heq : other = id
  · rw [if_pos heq, if_pos heq]
    rfl
  · rw [if_neg heq, if_neg heq]
    rfl

/-- Replacing a response has no bearing on the other ids. -/
theorem entry?_update_of_ne {other : ClientId} (hne : other ≠ id) (response : Payload) :
  Cache.entry? (c.update id response) other = c.entry? other
  := by
  rw [Cache.entry?, slot?_update, if_neg hne]
  rfl

/-- The resolved ids are listed in strictly ascending order. -/
theorem keys_ascending (c : Cache) :
  (c.keys.map ClientId.text).Pairwise (· < ·)
  := by
  rw [List.pairwise_map, keys, List.pairwise_filterMap]
  apply List.Pairwise.imp _ c.slots.ascending
  rintro ⟨key, slot⟩ ⟨key', slot'⟩ hlt id hid id' hid'
  cases slot with
  | pending => cases hid
  | resolved entry =>
    cases hid
    cases slot' with
    | pending => cases hid'
    | resolved entry' =>
      cases hid'
      exact hlt

end Cache

/-- The event brings no response. -/
def CacheEvent.IsQuiet : CacheEvent → Prop
  | .settle _ (.ok _) => False
  | .update _ _ => False
  | _ => True

namespace SharedCache

variable {s : SharedCache} {t : Ticket} {id : ClientId} {request : Payload}
  {entry : CacheEntry}

/-! ### Entries -/

/-- The event gives an entry to an id that has none. -/
inductive Enters (s : SharedCache) (id : ClientId) : CacheEvent → CacheEntry → Prop where
  /-- The call that resolves the id settles with a response. -/
  | accepted {t : Ticket} {request : Payload} (response : Payload)
      (call : s.call? t = some ⟨id, request, .resolving⟩) :
      Enters s id (.settle t (.ok response)) ⟨.of request, response⟩
  /-- A response is put under the id while it has no slot. -/
  | seeded (response : Payload) (slot : s.cache.slot? id = none) :
      Enters s id (.update id response) ⟨.empty, response⟩

namespace Sound

/-- A call that resolves an id finds no response there. -/
theorem ne_of_resolved (h : s.Sound) (slot : s.cache.slot? id = some (.resolved entry))
    {other : ClientId} (call : s.call? t = some ⟨other, request, .resolving⟩) :
  id ≠ other
  := by
  rintro rfl
  rw [h.slot call] at slot
  cases slot

/-- A resolved id keeps its entry in every event, up to the response. -/
theorem step_of_resolved (h : s.Sound) (slot : s.cache.slot? id = some (.resolved entry))
    (e : CacheEvent) :
  ∃ response, (s.step e).cache.slot? id = some (.resolved { entry with response })
  := by
  have m := s.step_move e
  generalize s.step e = s' at m
  cases m with
  | rest => exact ⟨_, slot⟩
  | replay => exact ⟨_, slot⟩
  | conflict => exact ⟨_, slot⟩
  | join => exact ⟨_, slot⟩
  | @own t other _ _ _ free =>
    use entry.response
    have hne : id ≠ other := by
      rintro rfl
      cases free.symm.trans slot
    simpa [hne] using slot
  | settle outcome call =>
    use entry.response
    rw [cache_setCall, cache_setCache, Cache.settle_of_pending (h.slot call)]
    simpa [h.ne_of_resolved slot call] using slot
  | deliver => exact ⟨_, slot⟩
  | abandon call =>
    use entry.response
    rw [cache_setCall, cache_setCache, Cache.abandon_of_pending (h.slot call)]
    simpa [h.ne_of_resolved slot call] using slot
  | leave => exact ⟨_, slot⟩
  | update other response =>
    rw [cache_setCache, Cache.slot?_update]
    by_cases heq : id = other
    · use response
      rw [if_pos heq, ← heq, slot]
      rfl
    · use entry.response
      rw [if_neg heq, slot]

theorem steps_of_resolved (h : s.Sound) (slot : s.cache.slot? id = some (.resolved entry))
    (events : List CacheEvent) :
  ∃ response, (s.steps events).cache.slot? id = some (.resolved { entry with response })
  := by
  induction events generalizing s entry with
  | nil => exact ⟨entry.response, slot⟩
  | cons e events ih =>
    obtain ⟨response, hstep⟩ := h.step_of_resolved slot e
    have hsteps := ih (h.step e) hstep
    exact hsteps

/-- An id that is not resolved becomes so only as `Enters` says. -/
theorem enters_of_step (h : s.Sound) (free : ∀ entry, s.cache.slot? id ≠ some (.resolved entry))
    {e : CacheEvent} (slot : (s.step e).cache.slot? id = some (.resolved entry)) :
  s.Enters id e entry
  := by
  have m := s.step_move e
  generalize s.step e = s' at m slot
  cases m with
  | rest => exact absurd slot (free entry)
  | replay => exact absurd slot (free entry)
  | conflict => exact absurd slot (free entry)
  | join => exact absurd slot (free entry)
  | own =>
    simp only [cache_setCall, cache_setCache, Cache.slot?_setChannel, Cache.slot?_setSlot]
      at slot
    split at slot
    · cases slot
    · exact absurd slot (free entry)
  | settle outcome call =>
    rw [cache_setCall, cache_setCache, Cache.settle_of_pending (h.slot call),
      Cache.slot?_setChannel, Cache.slot?_store] at slot
    split at slot
    next heq =>
      subst heq
      cases outcome with
      | ok response =>
        cases slot
        exact .accepted response call
      | error failure => cases slot
    · exact absurd slot (free entry)
  | deliver => exact absurd slot (free entry)
  | abandon call =>
    rw [cache_setCall, cache_setCache, Cache.abandon_of_pending (h.slot call),
      Cache.slot?_setChannel, Cache.slot?_freeSlot] at slot
    split at slot
    · cases slot
    · exact absurd slot (free entry)
  | leave => exact absurd slot (free entry)
  | update other response =>
    rw [cache_setCache, Cache.slot?_update] at slot
    split at slot
    next heq =>
      subst heq
      rcases hslot : s.cache.slot? id with _ | ⟨fingerprint, channel⟩ | entry'
      · rw [hslot] at slot
        cases slot
        exact .seeded response hslot
      · rw [hslot] at slot
        cases slot
      · exact absurd hslot (free entry')
    · exact absurd slot (free entry)

/-- An event that brings no response leaves the entries as they are. -/
theorem entry?_step (h : s.Sound) {e : CacheEvent} (quiet : e.IsQuiet) (id : ClientId) :
  Cache.entry? (s.step e).cache id = s.cache.entry? id
  := by
  have m := s.step_move e
  generalize s.step e = s' at m
  cases m with
  | rest => rfl
  | replay => rfl
  | conflict => rfl
  | join => rfl
  | @own t other _ _ _ free =>
    by_cases heq : id = other
    · simp [Cache.entry?, heq, free]
    · simp [Cache.entry?, heq]
  | @settle t other request outcome call =>
    cases outcome with
    | ok response => exact quiet.elim
    | error failure =>
      have pending := h.slot call
      rw [cache_setCall, cache_setCache, Cache.settle_of_pending pending, Cache.store]
      by_cases heq : id = other
      · simp [Cache.entry?, heq, pending]
      · simp [Cache.entry?, heq]
  | deliver => rfl
  | @abandon t other request call =>
    have pending := h.slot call
    rw [cache_setCall, cache_setCache, Cache.abandon_of_pending pending]
    by_cases heq : id = other
    · simp [Cache.entry?, heq, pending]
    · simp [Cache.entry?, heq]
  | leave => rfl
  | update => exact quiet.elim

/-- A response that is settled becomes the entry of its id, and of no other. -/
theorem entry?_settle (h : s.Sound) (call : s.call? t = some ⟨id, request, .resolving⟩)
    (response : Payload) (other : ClientId) :
  Cache.entry? (s.step (.settle t (.ok response))).cache other
    = if other = id then some ⟨.of request, response⟩ else s.cache.entry? other
  := by
  rw [step_settle call, cache_setCall, cache_setCache, Cache.settle_of_pending (h.slot call),
    Cache.entry?, Cache.slot?_setChannel, Cache.slot?_store]
  by_cases heq : other = id
  · rw [if_pos heq, if_pos heq]
    rfl
  · rw [if_neg heq, if_neg heq]
    rfl

/-- An event that gives an entry to an id leaves it there. -/
theorem step_of_enters (h : s.Sound) {e : CacheEvent} (enters : s.Enters id e entry) :
  (s.step e).cache.slot? id = some (.resolved entry)
  := by
  cases enters with
  | accepted response call =>
    rw [step_settle call, Cache.settle_of_pending (h.slot call)]
    simp [Cache.slotOf]
  | seeded response free =>
    rw [SharedCache.step, SharedCache.update, cache_setCache, Cache.slot?_update, if_pos rfl,
      free]
    rfl

end Sound

/-! ### Calls on a resolved id -/

/-- A call that asks for a resolved id returns at once and changes nothing in the cache. -/
theorem step_of_asks (slot : s.cache.slot? id = some (.resolved entry)) {e : CacheEvent}
    (asks : s.Asks t id request e) :
  s.step e = s.setCall t ⟨id, request, .returned (entry.answer id (.of request))⟩
  := by
  rw [asks.step_eq, ask, Cache.enter_of_resolved slot]
  rfl

/-- Resolved ids and their fingerprints are permanent.  In every state that a run of events leads
to, the resolved ids are listed in strictly ascending order, and an id that is not resolved
becomes so only when the call that resolves it settles with a response, with the fingerprint of
its request, or when a response is put under it while it has no slot, with the empty fingerprint.
In every later state the ids resolved before are still resolved with the same fingerprint; a
call that then asks for one returns, without running its resolver, the response that is stored
if its request has that fingerprint, and a conflict on the id if not, and leaves the cache as it
was. -/
theorem resolved_ids_are_permanent (before : List CacheEvent) :
  let s := empty.steps before
  (s.cache.keys.map ClientId.text).Pairwise (· < ·)
  ∧ (∀ id, id ∈ s.cache.keys ↔ ∃ entry, s.cache.slot? id = some (.resolved entry))
  ∧ (∀ id, id ∉ s.cache.keys → ∀ e entry,
      (s.step e).cache.slot? id = some (.resolved entry) ↔ s.Enters id e entry)
  ∧ ∀ later,
    let now := s.steps later
    s.cache.keys ⊆ now.cache.keys
    ∧ ∀ id entry, s.cache.slot? id = some (.resolved entry) →
      ∃ response, now.cache.slot? id = some (.resolved ⟨entry.fingerprint, response⟩)
        ∧ ∀ e t request, now.Asks t id request e →
          (now.step e).cache = now.cache
          ∧ ∀ rest, ((now.step e).steps rest).call? t = some ⟨id, request, .returned
              (if entry.fingerprint = .of request then .ok response
              else .error (.fatal (.orderConflict id)))⟩
  := by
  intro s
  have h : s.Sound := sound_steps before
  refine ⟨s.cache.keys_ascending, fun id => Cache.mem_keys, ?_, ?_⟩
  · intro id hid e entry
    constructor
    · apply h.enters_of_step
      intro entry' slot
      apply hid (Cache.mem_keys.2 ⟨entry', slot⟩)
    · exact h.step_of_enters
  · intro later now
    constructor
    · intro id hid
      obtain ⟨entry, slot⟩ := Cache.mem_keys.1 hid
      obtain ⟨response, hnow⟩ := h.steps_of_resolved slot later
      apply Cache.mem_keys.2 ⟨_, hnow⟩
    · intro id entry slot
      obtain ⟨response, hnow⟩ := h.steps_of_resolved slot later
      refine ⟨response, hnow, ?_⟩
      intro e t request asks
      rw [step_of_asks hnow asks]
      constructor
      · rfl
      · intro rest
        apply HasEnded.call?_steps
        apply hasEnded_of_returned
        rw [call?_setCall, if_pos rfl]
        rfl

end SharedCache

end OrderDesk
