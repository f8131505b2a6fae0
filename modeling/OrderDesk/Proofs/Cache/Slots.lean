import OrderDesk.Cache.Basic

/-!
# Slots and channels after an operation

What the operations of a cache do to each slot and to each channel.  A settlement and an
abandonment are described for the case in which the slot is pending, the only one in which a
call comes to them.
-/

namespace OrderDesk

/-- What a resolved slot answers to a request: its response, or a conflict if it was resolved
for another request. -/
def CacheEntry.answer (entry : CacheEntry) (id : ClientId) (fingerprint : Fingerprint) : Outcome :=
  if entry.fingerprint = fingerprint then .ok entry.response
  else .error (.fatal (.orderConflict id))

namespace Cache

variable {c : Cache} {id : ClientId} {fingerprint pending : Fingerprint} {channel : Ticket}

/-! ### Asking for an id -/

theorem enter_of_resolved {entry : CacheEntry} (h : c.slot? id = some (.resolved entry))
    (ticket : Ticket) (fingerprint : Fingerprint) :
  c.enter ticket id fingerprint = (c, .answered (entry.answer id fingerprint))
  := by
  rw [enter, h, CacheEntry.answer]
  dsimp only
  split
  · rfl
  · rfl

theorem enter_of_pending (h : c.slot? id = some (.pending fingerprint channel))
    (ticket : Ticket) :
  c.enter ticket id fingerprint = (c, .waits channel)
  := by
  rw [enter, h]
  exact if_pos rfl

theorem enter_of_conflict (h : c.slot? id = some (.pending pending channel))
    (hne : pending ≠ fingerprint) (ticket : Ticket) :
  c.enter ticket id fingerprint = (c, .answered (.error (.fatal (.orderConflict id))))
  := by
  rw [enter, h]
  exact if_neg hne

theorem enter_of_free (h : c.slot? id = none) (ticket : Ticket) (fingerprint : Fingerprint) :
  c.enter ticket id fingerprint
    = ((c.setSlot id (.pending fingerprint ticket)).setChannel ticket .unsettled, .resolves)
  := by
  rw [enter, h]

/-- A call waits only on the channel of a pending slot with its own fingerprint. -/
theorem slot?_of_waits {ticket : Ticket} (h : (c.enter ticket id fingerprint).2 = .waits channel) :
  c.slot? id = some (.pending fingerprint channel)
  := by
  rcases hslot : c.slot? id with _ | ⟨pending, channel'⟩ | entry
  · rw [enter_of_free hslot] at h
    cases h
  · by_cases hf : pending = fingerprint
    · subst hf
      rw [enter_of_pending hslot] at h
      cases h
      rfl
    · rw [enter_of_conflict hslot hf] at h
      cases h
  · rw [enter_of_resolved hslot] at h
    cases h

/-- A call resolves an id only if the id has no slot. -/
theorem slot?_of_resolves {ticket : Ticket} (h : (c.enter ticket id fingerprint).2 = .resolves) :
  c.slot? id = none
  := by
  rcases hslot : c.slot? id with _ | ⟨pending, channel'⟩ | entry
  · rfl
  · by_cases hf : pending = fingerprint
    · subst hf
      rw [enter_of_pending hslot] at h
      cases h
    · rw [enter_of_conflict hslot hf] at h
      cases h
  · rw [enter_of_resolved hslot] at h
    cases h

/-! ### Settling, abandoning and replacing -/

/-- The slot that an outcome leaves behind. -/
def slotOf (fingerprint : Fingerprint) : Outcome → Option Slot
  | .ok response => some (.resolved ⟨fingerprint, response⟩)
  | .error _ => none

/-- An outcome leaves no pending slot behind. -/
theorem slotOf_ne_pending (outcome : Outcome) :
  slotOf fingerprint outcome ≠ some (.pending pending channel)
  := by
  cases outcome with
  | ok response => simp [slotOf]
  | error failure => simp [slotOf]

@[simp]
theorem slot?_store (c : Cache) (id : ClientId) (fingerprint : Fingerprint) (outcome : Outcome)
    (other : ClientId) :
  (c.store id fingerprint outcome).slot? other
    = if other = id then slotOf fingerprint outcome else c.slot? other
  := by
  cases outcome with
  | ok response => apply slot?_setSlot c id _ other
  | error failure => apply slot?_freeSlot c id other

@[simp]
theorem channel?_store (c : Cache) (id : ClientId) (fingerprint : Fingerprint)
    (outcome : Outcome) (ticket : Ticket) :
  (c.store id fingerprint outcome).channel? ticket = c.channel? ticket
  := by
  cases outcome with
  | ok response => rfl
  | error failure => rfl

/-- Settling a pending slot stores the outcome and publishes it on the channel of the slot. -/
theorem settle_of_pending (h : c.slot? id = some (.pending pending channel))
    (fingerprint : Fingerprint) (outcome : Outcome) :
  c.settle id fingerprint outcome
    = (c.store id fingerprint outcome).setChannel channel (.settled outcome)
  := by
  rw [settle, h]

/-- Abandoning a pending slot frees it and closes its channel. -/
theorem abandon_of_pending (h : c.slot? id = some (.pending pending channel)) :
  c.abandon id = (c.freeSlot id).setChannel channel .closed
  := by
  rw [abandon, h]

/-- The slot of an id whose response is replaced. -/
def updatedSlot (response : Payload) : Option Slot → Slot
  | some (.resolved entry) => .resolved { entry with response }
  | some (.pending fingerprint channel) => .pending fingerprint channel
  | none => .resolved ⟨.empty, response⟩

theorem slot?_update (c : Cache) (id : ClientId) (response : Payload) (other : ClientId) :
  (c.update id response).slot? other
    = if other = id then some (updatedSlot response (c.slot? id)) else c.slot? other
  := by
  rcases h : c.slot? id with _ | ⟨fingerprint, channel⟩ | entry
  · rw [update, h]
    apply slot?_setSlot
  · rw [update, h]
    by_cases heq : other = id
    · rw [if_pos heq, heq, h]
      rfl
    · rw [if_neg heq]
  · rw [update, h]
    apply slot?_setSlot

@[simp]
theorem channel?_update (c : Cache) (id : ClientId) (response : Payload) (ticket : Ticket) :
  (c.update id response).channel? ticket = c.channel? ticket
  := by
  rw [update]
  split
  · rfl
  · rfl
  · rfl

/-- Replacing a response leaves the pending slots as they are, and makes none. -/
theorem update_pending_iff (c : Cache) (id : ClientId) (response : Payload) (other : ClientId) :
  (c.update id response).slot? other = some (.pending pending channel)
    ↔ c.slot? other = some (.pending pending channel)
  := by
  rw [slot?_update]
  by_cases heq : other = id
  · rw [if_pos heq, heq]
    rcases c.slot? id with _ | ⟨fingerprint, ticket⟩ | entry
    · simp [updatedSlot]
    · simp [updatedSlot]
    · simp [updatedSlot]
  · rw [if_neg heq]

end Cache

end OrderDesk
