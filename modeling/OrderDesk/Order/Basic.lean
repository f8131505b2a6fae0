import OrderDesk.Decimal.Basic
import OrderDesk.Json.Basic

/-!
# Orders

An `Order` says what to trade, independently of any venue.  A limit order needs a limit price,
a stop order a stop price and a stop-limit order both; further fields that only one venue
knows travel as extras.
-/

namespace OrderDesk

/-- The direction of an order. -/
inductive Side where
  | buy
  | sell
deriving DecidableEq, Repr, Inhabited

/-- How an order is executed. -/
inductive OrderType where
  | market
  | limit
  | stop
  | stopLimit
deriving DecidableEq, Repr, Inhabited

/-- How long an order stays open. -/
inductive TimeInForce where
  | immediateOrCancel
  | fillOrKill
  | goodTillCancelled
  | day
deriving DecidableEq, Repr, Inhabited

namespace Side

/-- The word for a side. -/
def word : Side → String
  | .buy => "buy"
  | .sell => "sell"

/-- Both sides. -/
def all : List Side := [.buy, .sell]

end Side

namespace OrderType

/-- The word for an order type. -/
def word : OrderType → String
  | .market => "market"
  | .limit => "limit"
  | .stop => "stop"
  | .stopLimit => "stop_limit"

/-- The word for an order type in capitals. -/
def capitals : OrderType → String
  | .market => "MARKET"
  | .limit => "LIMIT"
  | .stop => "STOP"
  | .stopLimit => "STOP_LIMIT"

/-- Every order type. -/
def all : List OrderType := [.market, .limit, .stop, .stopLimit]

/-- Whether an order of this type needs a limit price. -/
def needsLimitPrice : OrderType → Bool
  | .limit => true
  | .stopLimit => true
  | _ => false

/-- Whether an order of this type needs a stop price. -/
def needsStopPrice : OrderType → Bool
  | .stop => true
  | .stopLimit => true
  | _ => false

end OrderType

namespace TimeInForce

/-- The abbreviation for a time in force. -/
def word : TimeInForce → String
  | .immediateOrCancel => "ioc"
  | .fillOrKill => "fok"
  | .goodTillCancelled => "gtc"
  | .day => "day"

/-- The abbreviation for a time in force in capitals. -/
def capitals : TimeInForce → String
  | .immediateOrCancel => "IOC"
  | .fillOrKill => "FOK"
  | .goodTillCancelled => "GTC"
  | .day => "DAY"

/-- Every time in force. -/
def all : List TimeInForce := [.immediateOrCancel, .fillOrKill, .goodTillCancelled, .day]

end TimeInForce

/-- An order, independent of any venue. -/
structure Order where
  symbol : String
  side : Side
  quantity : Decimal
  orderType : OrderType
  /-- The venue's own default applies when it is missing. -/
  timeInForce : Option TimeInForce
  limitPrice : Option Decimal
  stopPrice : Option Decimal
  /-- Fields that only the venue knows. -/
  extras : Payload
deriving DecidableEq

namespace Order

/-- An order without prices, time in force and extras. -/
def new (symbol : String) (side : Side) (orderType : OrderType) (quantity : Decimal) : Order :=
  { symbol, side, quantity, orderType, timeInForce := none, limitPrice := none,
    stopPrice := none, extras := .empty }

/-- A market order. -/
def market (symbol : String) (side : Side) (quantity : Decimal) : Order :=
  new symbol side .market quantity

/-- The order with a time in force. -/
def withTimeInForce (o : Order) (t : TimeInForce) : Order := { o with timeInForce := some t }

/-- The order with a limit price. -/
def withLimitPrice (o : Order) (price : Decimal) : Order := { o with limitPrice := some price }

/-- The order with a stop price. -/
def withStopPrice (o : Order) (price : Decimal) : Order := { o with stopPrice := some price }

/-- The order with a venue's own field. -/
def withExtra (o : Order) (key : String) (value : Value) : Order :=
  { o with extras := o.extras.insert key value }

/-- A limit order. -/
def limit (symbol : String) (side : Side) (quantity price : Decimal) : Order :=
  (new symbol side .limit quantity).withLimitPrice price

/-- Whether the quantity is above zero and every price that the type needs is there. -/
def isComplete (o : Order) : Bool :=
  o.quantity.isPositive &&
    (!o.orderType.needsLimitPrice || o.limitPrice.isSome) &&
    (!o.orderType.needsStopPrice || o.stopPrice.isSome)

end Order

end OrderDesk
