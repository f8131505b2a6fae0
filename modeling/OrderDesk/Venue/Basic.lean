import OrderDesk.Failure

/-!
# Venues

The venues that orders can be sent to, with their names, their rate limits and the names of the
fields under which they carry the client id.
-/

namespace OrderDesk

/-- A venue that trades orders. -/
inductive Venue where
  | alpaca
  | oanda
  | ccxt
deriving DecidableEq, Repr, Inhabited

/-- What a venue needs to know to cancel an order. -/
structure CancelTarget where
  clientId : ClientId
  venueOrderId : Option String
  symbol : Option String
deriving DecidableEq, Repr

namespace CancelTarget

/-- A target that is addressed by the client id alone. -/
def byClientId (id : ClientId) : CancelTarget := ⟨id, none, none⟩

end CancelTarget

namespace Venue

/-- The short name of a venue, with which the ids generated for it begin. -/
def name : Venue → String
  | .alpaca => "alpaca"
  | .oanda => "oanda"
  | .ccxt => "ccxt"

/-- The rate limit that a venue imposes. -/
def rateLimit : Venue → RateLimit
  | .alpaca => .perMinute 180
  | .oanda => .perMinute 120
  | .ccxt => .perSecond 5

/-- The name of the field that carries the client id; no extra may have it. -/
def clientIdKey : Venue → String
  | .alpaca => "client_order_id"
  | .oanda => "clientExtensions"
  | .ccxt => "clientOrderId"

end Venue

end OrderDesk
