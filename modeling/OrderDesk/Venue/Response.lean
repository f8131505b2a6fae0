import OrderDesk.Json.Printer
import OrderDesk.Venue.Basic

/-!
# Venue responses

What is read out of a venue's answers and added to them: the client id under the venue's key,
the target of a later cancel, the answer to a cancel, and the token by which a listed order is
recognised.
-/

namespace OrderDesk

namespace Value

/-- The id that a value stands for: a text that is not empty, or the text of a number. -/
def idToken? (v : Value) : Option String :=
  match v.json with
  | .str s => if s = "" then none else some s
  | .num n => some n.text
  | _ => none

end Value

namespace Payload

/-- The value at the end of a path through nested objects. -/
def lookup? (p : Payload) : List String → Option Value
  | [] => none
  | [key] => p.get? key
  | key :: rest => (p.get? key >>= Value.asPayload?) >>= fun q => q.lookup? rest

/-- The first id found along one of the paths. -/
def firstId? (p : Payload) (paths : List (List String)) : Option String :=
  paths.findSome? fun path => p.lookup? path >>= Value.idToken?

/-- The object under a name, empty if there is none. -/
def objectAt (p : Payload) (key : String) : Payload :=
  ((p.get? key) >>= Value.asPayload?).getD .empty

end Payload

namespace Venue

/-- A response with the client id under the venue's key, and for CCXT with the symbol of the
request, each only where the response has none. -/
def annotate (venue : Venue) (id : ClientId) (request response : Payload) : Payload :=
  match venue with
  | .alpaca => response.insertIfAbsent "client_order_id" id.toValue
  | .oanda =>
    response.insert "clientExtensions"
      (.obj ((response.objectAt "clientExtensions").insertIfAbsent "id" id.toValue))
  | .ccxt =>
    let response := response.insertIfAbsent "clientOrderId" id.toValue
    match request.get? "symbol" with
    | some symbol => response.insertIfAbsent "symbol" symbol
    | none => response

/-- What the audit log keeps of a submitted request. -/
def submitRecord (venue : Venue) (id : ClientId) (request : Payload) : Payload :=
  match venue with
  | .ccxt => request.insert "client_id" id.toValue
  | _ => request

/-- The paths along which a venue's own order id is found in a response. -/
def orderIdPaths : Venue → List (List String)
  | .alpaca => []
  | .oanda => [["id"], ["orderId"], ["order", "id"], ["orderCreateTransaction", "id"]]
  | .ccxt => [["id"], ["orderId"]]

/-- The target of a cancel, given the response that is cached for the order. -/
def cancelTarget (venue : Venue) (id : ClientId) (cached : Payload) :
    Except Failure CancelTarget :=
  match venue with
  | .alpaca => .ok (.byClientId id)
  | .oanda =>
    match cached.firstId? venue.orderIdPaths with
    | some orderId => .ok ⟨id, some orderId, none⟩
    | none => .error (.fatal (.missingVenueOrderId id))
  | .ccxt =>
    match cached.firstId? venue.orderIdPaths with
    | some orderId => .ok ⟨id, some orderId, cached.get? "symbol" >>= Value.asText?⟩
    | none => .error (.fatal (.missingVenueOrderId id))

/-- The response to a cancel, given what the venue acknowledged it with. -/
def cancelResponse (venue : Venue) (target : CancelTarget) (raw : Option Payload) : Payload :=
  let response := raw.getD .empty
  match venue with
  | .alpaca =>
    (response.insertIfAbsent "client_order_id" target.clientId.toValue).insertIfAbsent "status"
      (.str "canceled")
  | .oanda => response.insertIfAbsent "client_id" target.clientId.toValue
  | .ccxt =>
    let response := response.insertIfAbsent "clientOrderId" target.clientId.toValue
    match target.symbol with
    | some symbol => response.insertIfAbsent "symbol" (.str symbol)
    | none => response

/-- What the audit log keeps of a cancel. -/
def cancelRecord (target : CancelTarget) : Payload :=
  let payload := Payload.empty.insert "client_id" target.clientId.toValue
  match target.venueOrderId with
  | some orderId => payload.insert "order_id" (.str orderId)
  | none => payload

/-- The paths along which a listed order shows the id it was submitted under. -/
def tokenPaths : Venue → List (List String)
  | .alpaca => [["client_order_id"], ["clientOrderId"], ["id"]]
  | .oanda => [["clientExtensions", "id"], ["id"]]
  | .ccxt => [["clientOrderId"], ["client_order_id"], ["id"]]

/-- The token by which a listed order is recognised. -/
def token? (venue : Venue) (listed : Payload) : Option String := listed.firstId? venue.tokenPaths

end Venue

end OrderDesk
