import OrderDesk.Proofs.Json.Objects
import OrderDesk.Venue.Profile

/-!
# What is read out of responses

Which order a response names for a later cancel depends on a few of its names only, and on none
that a venue's profile writes into responses, the symbol at CCXT apart.  An annotation that is
made twice is therefore made once, and the response to a cancel names the order that the venue's
acknowledgement names, whatever order the cancel was for.
-/

namespace OrderDesk

namespace Payload

variable {p q : Payload} {key : String}

/-- What is found along a path depends on the value under its first name only. -/
theorem lookup?_congr (h : p.get? key = q.get? key) (rest : List String) :
  p.lookup? (key :: rest) = q.lookup? (key :: rest)
  := by
  cases rest with
  | nil => exact h
  | cons next rest => simp only [lookup?, h]

/-- The first id found depends on the values under the first names of the paths only. -/
theorem firstId?_congr {paths : List (List String)}
    (h : ∀ path ∈ paths, ∀ key ∈ path.head?, p.get? key = q.get? key) :
  p.firstId? paths = q.firstId? paths
  := by
  induction paths with
  | nil => rfl
  | cons path paths ih =>
    have hpath : p.lookup? path = q.lookup? path := by
      cases path with
      | nil => rfl
      | cons key rest =>
        apply lookup?_congr
        apply h _ List.mem_cons_self key rfl
    have hpaths : p.firstId? paths = q.firstId? paths := by
      apply ih
      intro path' hmem
      apply h path' (List.mem_cons_of_mem path hmem)
    rw [firstId?, firstId?] at hpaths ⊢
    rw [List.findSome?_cons, List.findSome?_cons, hpath, hpaths]

/-- A name that begins none of the paths has no bearing on the id found along them. -/
theorem firstId?_insertIfAbsent {paths : List (List String)} (p : Payload) (value : Value)
    (h : ∀ path ∈ paths, path.head? ≠ some key) :
  (p.insertIfAbsent key value).firstId? paths = p.firstId? paths
  := by
  apply firstId?_congr
  intro path hmem other hother
  rw [get?_insertIfAbsent, if_neg]
  rintro rfl
  apply h path hmem hother

@[simp]
theorem objectAt_insert (p : Payload) (key : String) (q : Payload) :
  (p.insert key (.obj q)).objectAt key = q
  := by
  rw [objectAt, get?_insert, if_pos rfl]
  rfl

end Payload

namespace Venue

variable {venue : Venue} {id : ClientId} {cached : Payload} {target : CancelTarget}

/-! ### Annotations -/

/-- An annotation adds what is missing, so that a second one has nothing to add. -/
theorem annotate_annotate (venue : Venue) (id : ClientId) (request response : Payload) :
  venue.annotate id request (venue.annotate id request response)
    = venue.annotate id request response
  := by
  cases venue with
  | alpaca => apply Payload.insertIfAbsent_insertIfAbsent
  | oanda =>
    rw [annotate, annotate, Payload.objectAt_insert, Payload.insertIfAbsent_insertIfAbsent]
    apply Payload.insert_of_get?
    rw [Payload.get?_insert, if_pos rfl]
  | ccxt =>
    rw [annotate, annotate]
    rcases request.get? "symbol" with _ | symbol
    · apply Payload.insertIfAbsent_insertIfAbsent
    · -- the client id is still there when the symbol has been added
      have hid : ((response.insertIfAbsent "clientOrderId" id.toValue).insertIfAbsent "symbol"
          symbol).get? "clientOrderId"
          = some ((response.get? "clientOrderId").getD id.toValue) := by
        rw [Payload.get?_insertIfAbsent, if_neg (by decide), Payload.get?_insertIfAbsent,
          if_pos rfl]
      rw [Payload.insertIfAbsent_of_get? hid]
      apply Payload.insertIfAbsent_insertIfAbsent

/-! ### Targets of cancels -/

/-- A venue may find cancelled orders by its own order id only. -/
def NeedsOrderId (venue : Venue) : Prop := venue ≠ .alpaca

theorem clientId_of_cancelTarget (h : venue.cancelTarget id cached = .ok target) :
  target.clientId = id
  := by
  cases venue with
  | alpaca =>
    cases h
    rfl
  | oanda =>
    rw [cancelTarget] at h
    split at h
    · cases h
      rfl
    · cases h
  | ccxt =>
    rw [cancelTarget] at h
    split at h
    · cases h
      rfl
    · cases h

/-- A response names no target exactly if the venue needs its own order id and the response has
none. -/
theorem cancelTarget_eq_error {failure : Failure} :
  venue.cancelTarget id cached = .error failure
    ↔ venue.NeedsOrderId ∧ cached.firstId? venue.orderIdPaths = none
      ∧ failure = .fatal (.missingVenueOrderId id)
  := by
  cases venue with
  | alpaca => simp [cancelTarget, NeedsOrderId]
  | oanda =>
    rw [cancelTarget]
    rcases cached.firstId? oanda.orderIdPaths with _ | orderId
    · simp [NeedsOrderId, eq_comm]
    · simp
  | ccxt =>
    rw [cancelTarget]
    rcases cached.firstId? ccxt.orderIdPaths with _ | orderId
    · simp [NeedsOrderId, eq_comm]
    · simp

/-- The response to a cancel has the order id that the acknowledgement has. -/
theorem firstId?_cancelResponse (venue : Venue) (target : CancelTarget) (raw : Option Payload) :
  (venue.cancelResponse target raw).firstId? venue.orderIdPaths
    = (raw.getD .empty).firstId? venue.orderIdPaths
  := by
  cases venue with
  | alpaca => rfl
  | oanda =>
    apply Payload.firstId?_insertIfAbsent
    decide
  | ccxt =>
    rw [cancelResponse]
    rcases target.symbol with _ | symbol
    · apply Payload.firstId?_insertIfAbsent
      decide
    · rw [Payload.firstId?_insertIfAbsent, Payload.firstId?_insertIfAbsent]
      · decide
      · decide

/-- The symbol in the response to a cancel at CCXT is that of the acknowledgement, and that of the
target if the acknowledgement has none. -/
theorem symbol_cancelResponse (target : CancelTarget) (raw : Option Payload) :
  (ccxt.cancelResponse target raw).get? "symbol"
    = ((raw.getD .empty).get? "symbol").or (target.symbol.map .str)
  := by
  have hother : ((raw.getD .empty).insertIfAbsent "clientOrderId" target.clientId.toValue).get?
      "symbol" = (raw.getD .empty).get? "symbol" := by
    rw [Payload.get?_insertIfAbsent, if_neg (by decide)]
  rw [cancelResponse]
  rcases target.symbol with _ | symbol
  · rw [Option.map_none, Option.or_none]
    exact hother
  · rw [Payload.get?_insertIfAbsent, if_pos rfl, hother, Option.map_some, Option.or_some]

/-- The acknowledgement of a cancel names the order that was cancelled: where the venue needs its
own order id, the acknowledgement has that of the target, and at CCXT no other symbol. -/
def Confirms (venue : Venue) (target : CancelTarget) (raw : Option Payload) : Prop :=
  venue.NeedsOrderId →
    (raw.getD .empty).firstId? venue.orderIdPaths = target.venueOrderId
    ∧ (venue = .ccxt → ∀ symbol, (raw.getD .empty).get? "symbol" = some symbol →
        symbol.asText? = target.symbol)

/-- The response to a cancel names the target of the cancel again exactly if the acknowledgement
names the order that was cancelled. -/
theorem cancelTarget_cancelResponse (h : venue.cancelTarget id cached = .ok target)
    (raw : Option Payload) :
  venue.cancelTarget id (venue.cancelResponse target raw) = .ok target
    ↔ venue.Confirms target raw
  := by
  have horder := venue.firstId?_cancelResponse target raw
  cases venue with
  | alpaca =>
    cases h
    exact iff_of_true rfl (absurd rfl)
  | oanda =>
    rw [cancelTarget] at h
    split at h
    next orderId found =>
      cases h
      rw [cancelTarget, horder, Confirms]
      rcases (raw.getD .empty).firstId? oanda.orderIdPaths with _ | orderId'
      · simp [NeedsOrderId]
      · simp [NeedsOrderId]
    next => cases h
  | ccxt =>
    rw [cancelTarget] at h
    split at h
    next orderId found =>
      cases h
      rw [cancelTarget, horder, Confirms, symbol_cancelResponse]
      rcases (raw.getD .empty).firstId? ccxt.orderIdPaths with _ | orderId'
      · simp [NeedsOrderId]
      · rcases (raw.getD .empty).get? "symbol" with _ | symbol
        · rcases cached.get? "symbol" >>= Value.asText? with _ | s
          · simp [NeedsOrderId]
          · simp [NeedsOrderId]
        · simp [NeedsOrderId]
    next => cases h

end Venue

end OrderDesk
