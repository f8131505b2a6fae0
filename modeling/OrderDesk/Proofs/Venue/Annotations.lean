import OrderDesk.Proofs.Venue.Responses

/-!
# Client ids in responses

An annotation supplies the client id, and at CCXT the symbol of the request, where the response
has no value for them, and leaves every value that is there alone, be it an id or not.  None of
the names it supplies begins a path along which a venue's own order id is found, so that it has no
bearing on the order that a later cancel is for.
-/

namespace OrderDesk

namespace Payload

/-- A value inserted where there is none comes after the values of the object. -/
theorem get?_insertIfAbsent_eq_or (p : Payload) (key : String) (value : Value) (other : String) :
  (p.insertIfAbsent key value).get? other
    = (p.get? other).or (if other = key then some value else none)
  := by
  rw [get?_insertIfAbsent]
  split
  next heq =>
    rw [heq]
    rcases p.get? key with _ | present
    · rfl
    · rfl
  next => rw [Option.or_none]

/-- The values of the object under a name are found along the path through that name. -/
theorem get?_objectAt (p : Payload) (key name : String) :
  (p.objectAt key).get? name = p.lookup? [key, name]
  := by
  rw [objectAt]
  change _ = (p.get? key >>= Value.asPayload?) >>= fun q => q.lookup? [name]
  rcases p.get? key >>= Value.asPayload? with _ | q
  · rfl
  · rfl

end Payload

namespace Venue

variable {venue : Venue} {key : String}

/-- The path along which a response carries the client id. -/
def clientIdPath : Venue → List String
  | .alpaca => ["client_order_id"]
  | .oanda => ["clientExtensions", "id"]
  | .ccxt => ["clientOrderId"]

/-- A name may be that of the object in which a venue carries the client id beside other
values. -/
def IsContainer (venue : Venue) (key : String) : Prop :=
  venue = .oanda ∧ key = venue.clientIdKey

/-! ### What an annotation supplies -/

/-- What an annotation puts under a name for which the response has no value. -/
def supplement (venue : Venue) (id : ClientId) (request : Payload) (key : String) :
    Option Value :=
  if key = venue.clientIdKey then some id.toValue
  else if venue = .ccxt ∧ key = "symbol" then request.get? "symbol"
  else none

/-- Outside the container of the client id, an annotation comes after the values of the
response. -/
theorem get?_annotate (h : ¬venue.IsContainer key) (id : ClientId) (request response : Payload) :
  (venue.annotate id request response).get? key
    = (response.get? key).or (venue.supplement id request key)
  := by
  cases venue with
  | alpaca =>
    rw [annotate, Payload.get?_insertIfAbsent_eq_or, supplement, if_neg (c := _ ∧ _) (by simp)]
    rfl
  | oanda =>
    have hne : key ≠ clientIdKey .oanda := fun heq => h ⟨rfl, heq⟩
    rw [supplement, if_neg hne, if_neg (by simp), Option.or_none]
    apply Payload.get?_insert_of_ne _ _ hne
  | ccxt =>
    have hid := Payload.get?_insertIfAbsent_eq_or response "clientOrderId" id.toValue key
    rw [annotate, supplement]
    rcases request.get? "symbol" with _ | symbol
    · rw [ite_self]
      apply hid
    · change ((response.insertIfAbsent "clientOrderId" id.toValue).insertIfAbsent "symbol"
        symbol).get? key = _
      rw [Payload.get?_insertIfAbsent_eq_or, hid, Option.or_assoc, clientIdKey]
      congr 1
      split
      next => rw [Option.some_or]
      next => simp only [Option.none_or, true_and]

/-- The container of the client id keeps what it has beside the client id. -/
theorem lookup?_annotate_container {name : String} (h : venue.IsContainer key)
    (hname : [key, name] ≠ venue.clientIdPath) (id : ClientId) (request response : Payload) :
  (venue.annotate id request response).lookup? [key, name] = response.lookup? [key, name]
  := by
  obtain ⟨rfl, rfl⟩ := h
  have hne : name ≠ "id" := by
    rintro rfl
    exact hname rfl
  rw [← Payload.get?_objectAt, ← Payload.get?_objectAt, clientIdKey, annotate,
    Payload.objectAt_insert, Payload.get?_insertIfAbsent, if_neg hne]

/-- A response that has been annotated carries a value for the client id: its own, and the client
id if it had none. -/
theorem lookup?_clientIdPath_annotate (venue : Venue) (id : ClientId) (request response : Payload) :
  (venue.annotate id request response).lookup? venue.clientIdPath
    = some ((response.lookup? venue.clientIdPath).getD id.toValue)
  := by
  have hpresent (value : Option Value) :
      value.or (some id.toValue) = some (value.getD id.toValue) := by
    cases value with
    | none => rfl
    | some present => rfl
  cases venue with
  | alpaca =>
    apply Eq.trans (get?_annotate (by simp [IsContainer]) id request response)
    apply hpresent
  | oanda =>
    rw [clientIdPath, ← Payload.get?_objectAt, ← Payload.get?_objectAt, annotate,
      Payload.objectAt_insert, Payload.get?_insertIfAbsent, if_pos rfl]
  | ccxt =>
    apply Eq.trans (get?_annotate (by simp [IsContainer]) id request response)
    apply hpresent

/-- The response to a cancel carries for the client id what the acknowledgement carries, or nothing
but the client id of the target. -/
theorem lookup?_clientIdPath_cancelResponse (venue : Venue) (target : CancelTarget)
    (raw : Option Payload) :
  ((venue.cancelResponse target raw).lookup? venue.clientIdPath).getD target.clientId.toValue
    = ((raw.getD .empty).lookup? venue.clientIdPath).getD target.clientId.toValue
  := by
  -- where the client id itself is supplied, there is no difference
  have supplied (p : Payload) (key : String) :
      ((p.insertIfAbsent key target.clientId.toValue).get? key).getD target.clientId.toValue
        = (p.get? key).getD target.clientId.toValue := by
    rw [Payload.get?_insertIfAbsent, if_pos rfl, Option.getD_some]
  cases venue with
  | alpaca =>
    change (Payload.get? _ "client_order_id").getD _ = (Payload.get? _ "client_order_id").getD _
    rw [cancelResponse, Payload.get?_insertIfAbsent, if_neg (by decide), supplied]
  | oanda =>
    rw [cancelResponse, clientIdPath, Payload.lookup?_congr]
    rw [Payload.get?_insertIfAbsent, if_neg (by decide)]
  | ccxt =>
    change (Payload.get? _ "clientOrderId").getD _ = (Payload.get? _ "clientOrderId").getD _
    rw [cancelResponse]
    rcases target.symbol with _ | symbol
    · apply supplied
    · dsimp only
      rw [Payload.get?_insertIfAbsent, if_neg (by decide), supplied]

/-! ### Usable ids -/

/-- The usable id that a response carries for the client id. -/
def clientToken? (venue : Venue) (response : Payload) : Option String :=
  response.lookup? venue.clientIdPath >>= Value.idToken?

/-- The response carries for the client id what the answer carries, and the id if that carries
nothing there; so it carries a usable one exactly if the answer does or carries nothing. -/
structure CarriesFrom (venue : Venue) (id : ClientId) (answer response : Payload) : Prop where
  value : response.lookup? venue.clientIdPath
    = some ((answer.lookup? venue.clientIdPath).getD id.toValue)
  usable (nonempty : id.text ≠ "") : (venue.clientToken? response).isSome
    ↔ answer.lookup? venue.clientIdPath = none ∨ (venue.clientToken? answer).isSome

theorem carriesFrom_iff {answer response : Payload} {id : ClientId} :
  venue.CarriesFrom id answer response
    ↔ response.lookup? venue.clientIdPath
      = some ((answer.lookup? venue.clientIdPath).getD id.toValue)
  := by
  constructor
  · exact CarriesFrom.value
  · intro value
    refine ⟨value, ?_⟩
    intro nonempty
    have htoken : id.toValue.idToken? = some id.text := if_neg nonempty
    rw [clientToken?, clientToken?, value]
    rcases answer.lookup? venue.clientIdPath with _ | present
    · simp [htoken]
    · simp

/-- An annotated response carries the id that the response carries. -/
theorem carriesFrom_annotate (venue : Venue) (id : ClientId) (request response : Payload) :
  venue.CarriesFrom id response (venue.annotate id request response)
  := carriesFrom_iff.2 (venue.lookup?_clientIdPath_annotate id request response)

/-! ### The order that a cancel is for -/

/-- An annotation has no bearing on the venue's own order id. -/
theorem firstId?_annotate (venue : Venue) (id : ClientId) (request response : Payload) :
  (venue.annotate id request response).firstId? venue.orderIdPaths
    = response.firstId? venue.orderIdPaths
  := by
  have hpaths : ∀ path ∈ venue.orderIdPaths, ∀ key ∈ path.head?,
      ¬venue.IsContainer key ∧ venue.supplement id request key = none := by
    cases venue with
    | alpaca => simp [orderIdPaths]
    | oanda => simp [orderIdPaths, IsContainer, supplement, clientIdKey]
    | ccxt => simp [orderIdPaths, IsContainer, supplement, clientIdKey]
  apply Payload.firstId?_congr
  intro path hmem key hkey
  obtain ⟨hcontainer, hnone⟩ := hpaths path hmem key hkey
  rw [get?_annotate hcontainer, hnone, Option.or_none]

/-- The venue's own order id in the target of a cancel, or the lack of it, depends on the order
ids of the response only. -/
theorem venueOrderId_cancelTarget {p q : Payload}
    (h : p.firstId? venue.orderIdPaths = q.firstId? venue.orderIdPaths) (id : ClientId) :
  (venue.cancelTarget id p).map CancelTarget.venueOrderId
    = (venue.cancelTarget id q).map CancelTarget.venueOrderId
  := by
  cases venue with
  | alpaca => rfl
  | oanda =>
    rw [cancelTarget, cancelTarget, h]
  | ccxt =>
    rw [cancelTarget, cancelTarget, h]
    rcases q.firstId? ccxt.orderIdPaths with _ | orderId
    · rfl
    · rfl

/-- Annotating twice is annotating once.  An annotation keeps every value of the response outside
the container of the client id, and in the container every value but the client id, which it
supplies where there is none; it adds no other name than that of the client id and, at CCXT, the
symbol; and the venue's own order id that a cancel finds in the annotated response, or its absence,
is that of the response. -/
theorem annotation_adds_only_what_is_missing (venue : Venue) (id : ClientId)
    (request response : Payload) :
  venue.annotate id request (venue.annotate id request response)
      = venue.annotate id request response
    ∧ (∀ key value, ¬venue.IsContainer key → response.get? key = some value →
        (venue.annotate id request response).get? key = some value)
    ∧ (∀ key name, venue.IsContainer key → [key, name] ≠ venue.clientIdPath →
        (venue.annotate id request response).lookup? [key, name] = response.lookup? [key, name])
    ∧ (venue.annotate id request response).lookup? venue.clientIdPath
        = some ((response.lookup? venue.clientIdPath).getD id.toValue)
    ∧ (∀ key, response.get? key = none →
        (venue.annotate id request response).get? key ≠ none →
          key = venue.clientIdKey ∨ venue = .ccxt ∧ key = "symbol")
    ∧ ∀ target, (venue.cancelTarget target (venue.annotate id request response)).map
          CancelTarget.venueOrderId
        = (venue.cancelTarget target response).map CancelTarget.venueOrderId
  := by
  refine ⟨venue.annotate_annotate id request response, ?keeps, ?beside,
    venue.lookup?_clientIdPath_annotate id request response, ?adds, ?target⟩
  case keeps =>
    intro key value hcontainer hvalue
    rw [get?_annotate hcontainer, hvalue, Option.some_or]
  case beside =>
    intro key name hcontainer hname
    apply lookup?_annotate_container hcontainer hname
  case adds =>
    intro key hnone hadded
    by_cases hid : key = venue.clientIdKey
    · exact .inl hid
    · by_cases hsymbol : venue = .ccxt ∧ key = "symbol"
      · exact .inr hsymbol
      · rw [get?_annotate (fun h => hid h.2), hnone, supplement, if_neg hid,
          if_neg hsymbol] at hadded
        exact absurd rfl hadded
  case target =>
    intro target
    apply venueOrderId_cancelTarget
    apply firstId?_annotate

end Venue

end OrderDesk
