import OrderDesk.Failure
import OrderDesk.Fingerprint

/-!
# The order cache

A cache maps a client id to the fingerprint of the request first submitted under it and to the
venue's response.  While the first caller resolves an id its slot is pending; later callers
with the same request subscribe to the channel of the slot, on which the outcome is published.
A channel is named by the ticket of the call that owns its slot.
-/

namespace OrderDesk

/-- The name of one call. -/
abbrev Ticket := String

/-- How the resolution of an id ended: with a response, or with a failure. -/
abbrev Outcome := Except Failure Payload

/-- What is remembered of a submitted request. -/
structure CacheEntry where
  fingerprint : Fingerprint
  /-- The venue's latest response. -/
  response : Payload
deriving DecidableEq

/-- The state of an id in a cache. -/
inductive Slot where
  /-- A call is resolving the id and will publish the outcome on its channel. -/
  | pending (fingerprint : Fingerprint) (channel : Ticket)
  | resolved (entry : CacheEntry)
deriving DecidableEq

/-- The state of a channel. -/
inductive Channel where
  | unsettled
  | settled (outcome : Outcome)
  /-- The call that owned the channel was dropped before it had an outcome. -/
  | closed
deriving DecidableEq

/-- The slots of the ids and the channels of the calls that have resolved or resolve one. -/
structure Cache where
  slots : Table Slot
  channels : Table Channel

/-- What a call finds when it asks for an id. -/
inductive Entrance where
  /-- The answer is known. -/
  | answered (outcome : Outcome)
  /-- Another call is resolving the id for the same request. -/
  | waits (channel : Ticket)
  /-- The call is the first one and resolves the id itself. -/
  | resolves
deriving DecidableEq

namespace Cache

/-- The cache without ids. -/
def empty : Cache := ⟨.empty, .empty⟩

/-- The slot of an id. -/
def slot? (c : Cache) (id : ClientId) : Option Slot := c.slots.get? id.text

/-- The channel of a call. -/
def channel? (c : Cache) (ticket : Ticket) : Option Channel := c.channels.get? ticket

/-- The cache with a slot for an id, in place of the one that was there. -/
def setSlot (c : Cache) (id : ClientId) (slot : Slot) : Cache :=
  { c with slots := c.slots.insert id.text slot }

/-- The cache without a slot for an id. -/
def freeSlot (c : Cache) (id : ClientId) : Cache := { c with slots := c.slots.erase id.text }

/-- The cache with a channel in another state. -/
def setChannel (c : Cache) (ticket : Ticket) (channel : Channel) : Cache :=
  { c with channels := c.channels.insert ticket channel }

@[simp]
theorem slot?_setSlot (c : Cache) (id : ClientId) (slot : Slot) (other : ClientId) :
  (c.setSlot id slot).slot? other = if other = id then some slot else c.slot? other
  := by
  rw [slot?, setSlot, Table.get?_insert]
  simp only [ClientId.text_inj]
  rfl

@[simp]
theorem slot?_freeSlot (c : Cache) (id other : ClientId) :
  (c.freeSlot id).slot? other = if other = id then none else c.slot? other
  := by
  rw [slot?, freeSlot, Table.get?_erase]
  simp only [ClientId.text_inj]
  rfl

@[simp]
theorem slot?_setChannel (c : Cache) (ticket : Ticket) (channel : Channel) (id : ClientId) :
  (c.setChannel ticket channel).slot? id = c.slot? id
  := rfl

@[simp]
theorem channel?_setSlot (c : Cache) (id : ClientId) (slot : Slot) (ticket : Ticket) :
  (c.setSlot id slot).channel? ticket = c.channel? ticket
  := rfl

@[simp]
theorem channel?_freeSlot (c : Cache) (id : ClientId) (ticket : Ticket) :
  (c.freeSlot id).channel? ticket = c.channel? ticket
  := rfl

@[simp]
theorem channel?_setChannel (c : Cache) (ticket : Ticket) (channel : Channel) (other : Ticket) :
  (c.setChannel ticket channel).channel? other
    = if other = ticket then some channel else c.channel? other
  := Table.get?_insert c.channels ticket channel other

/-- A call asks for an id: the answer from a resolved slot, a conflict if the request is not
the one the id was first used for, a subscription to a pending slot, or a slot of its own. -/
def enter (c : Cache) (ticket : Ticket) (id : ClientId) (fingerprint : Fingerprint) :
    Cache × Entrance :=
  match c.slot? id with
  | some (.resolved entry) =>
    if entry.fingerprint = fingerprint then (c, .answered (.ok entry.response))
    else (c, .answered (.error (.fatal (.orderConflict id))))
  | some (.pending pending channel) =>
    if pending = fingerprint then (c, .waits channel)
    else (c, .answered (.error (.fatal (.orderConflict id))))
  | none => ((c.setSlot id (.pending fingerprint ticket)).setChannel ticket .unsettled, .resolves)

/-- The slot of an id once its resolution has an outcome: a response is stored, a failure frees
the id again. -/
def store (c : Cache) (id : ClientId) (fingerprint : Fingerprint) : Outcome → Cache
  | .ok response => c.setSlot id (.resolved ⟨fingerprint, response⟩)
  | .error _ => c.freeSlot id

/-- A call has resolved an id: the outcome is stored, and then published on the channel of the
slot that was pending. -/
def settle (c : Cache) (id : ClientId) (fingerprint : Fingerprint) (outcome : Outcome) : Cache :=
  match c.slot? id with
  | some (.pending _ channel) =>
    (c.store id fingerprint outcome).setChannel channel (.settled outcome)
  | _ => c.store id fingerprint outcome

/-- The call that was resolving an id has been dropped: the id is free again and its channel is
closed without an outcome. -/
def abandon (c : Cache) (id : ClientId) : Cache :=
  match c.slot? id with
  | some (.pending _ channel) => (c.freeSlot id).setChannel channel .closed
  | _ => c

/-- Replaces the response of a resolved id.  An unknown id is stored with the empty
fingerprint, and an id that is being resolved is left alone. -/
def update (c : Cache) (id : ClientId) (response : Payload) : Cache :=
  match c.slot? id with
  | some (.resolved entry) => c.setSlot id (.resolved { entry with response })
  | some (.pending _ _) => c
  | none => c.setSlot id (.resolved ⟨.empty, response⟩)

/-- The entry of a resolved id. -/
def entry? (c : Cache) (id : ClientId) : Option CacheEntry :=
  match c.slot? id with
  | some (.resolved entry) => some entry
  | _ => none

/-- The response of a resolved id. -/
def get? (c : Cache) (id : ClientId) : Option Payload := (c.entry? id).map CacheEntry.response

/-- Whether an id is resolved. -/
def contains (c : Cache) (id : ClientId) : Bool := (c.entry? id).isSome

/-- The resolved ids, in ascending order. -/
def keys (c : Cache) : List ClientId :=
  c.slots.entries.filterMap fun f => match f.2 with
    | .resolved _ => some ⟨f.1⟩
    | .pending _ _ => none

/-- The number of resolved ids. -/
def size (c : Cache) : Nat := c.keys.length

/-- Whether no id is resolved. -/
def isEmpty (c : Cache) : Bool := c.size == 0

end Cache

end OrderDesk
