import OrderDesk.Venue.Basic

/-!
# Venue requests

How an order is put to a venue.  Each venue has its own names for the fields of an order; the
client id travels under the venue's client-id key, and the extras of the order are laid over
one object of the request: the request itself, its `order` or its `params`.
-/

namespace OrderDesk

namespace Payload

/-- The object with an extra laid over it, which may not have the reserved name. -/
def layExtra (reserved : String) (p : Payload) (extra : String × Value) : Except Failure Payload :=
  if extra.1 = reserved then .error (.fatal (.invalidOrder (.reservedExtra extra.1)))
  else .ok (p.insert extra.1 extra.2)

/-- The object with extras laid over it, one after the other in the order of their names. -/
def overlay (target extras : Payload) (reserved : String) : Except Failure Payload :=
  extras.toList.foldlM (layExtra reserved) target

/-- The object with a decimal under a name, if there is one. -/
def insertDecimal? (p : Payload) (key : String) (d : Option Decimal) : Payload :=
  match d with
  | some d => p.insert key d.toValue
  | none => p

end Payload

namespace Venue

/-- The object of an Alpaca request before the extras are laid over it. -/
def alpacaFields (id : ClientId) (o : Order) : Payload :=
  ((Payload.ofList [
    ("symbol", .str o.symbol),
    ("qty", o.quantity.toValue),
    ("side", .str o.side.word),
    ("type", .str o.orderType.word),
    ("time_in_force", .str (o.timeInForce.getD .goodTillCancelled).word),
    ("client_order_id", id.toValue)]).insertDecimal? "limit_price" o.limitPrice).insertDecimal?
      "stop_price" o.stopPrice

/-- The quantity of an order, negative when it sells. -/
def signedUnits (o : Order) : Decimal :=
  match o.side with
  | .buy => o.quantity
  | .sell => o.quantity.neg

/-- The order object of an OANDA request before the extras are laid over it. -/
def oandaFields (id : ClientId) (o : Order) : Payload :=
  (Payload.ofList [
    ("instrument", .str o.symbol),
    ("units", (signedUnits o).toValue),
    ("type", .str o.orderType.capitals),
    ("timeInForce", .str (o.timeInForce.getD .fillOrKill).capitals),
    ("positionFill", .str "DEFAULT"),
    ("clientExtensions", .obj (.ofList [("id", id.toValue)]))]).insertDecimal? "price"
      (o.limitPrice.or o.stopPrice)

/-- The params object of a CCXT request before the extras are laid over it. -/
def ccxtParams (id : ClientId) (o : Order) : Payload :=
  (Payload.ofList [("clientOrderId", id.toValue)]).insertDecimal? "stopPrice" o.stopPrice

/-- A CCXT request without its params; a market order goes out without a price. -/
def ccxtFields (o : Order) : Payload :=
  (Payload.ofList [
    ("symbol", .str o.symbol),
    ("type", .str o.orderType.word),
    ("side", .str o.side.word),
    ("amount", o.quantity.toValue)]).insertDecimal? "price"
      (if o.orderType = .market then none else o.limitPrice)

/-- The object of a request that the extras are laid over. -/
def overlaid (venue : Venue) (id : ClientId) (o : Order) : Payload :=
  match venue with
  | .alpaca => alpacaFields id o
  | .oanda => oandaFields id o
  | .ccxt => ccxtParams id o

/-- The request around the object that the extras were laid over. -/
def embed (venue : Venue) (o : Order) (inner : Payload) : Payload :=
  match venue with
  | .alpaca => inner
  | .oanda => .ofList [("order", .obj inner)]
  | .ccxt => (ccxtFields o).insert "params" (.obj inner)

/-- The request that puts an order to a venue under a client id. -/
def buildRequest (venue : Venue) (id : ClientId) (o : Order) : Except Failure Payload :=
  ((venue.overlaid id o).overlay o.extras venue.clientIdKey).map (venue.embed o)

end Venue

end OrderDesk
