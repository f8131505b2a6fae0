import OrderDesk.Decimal.Text
import OrderDesk.Json.Record
import OrderDesk.Order.Basic

/-!
# The JSON form of orders

`Order.toValue` writes every field of an order, decimals as texts so that no digit is lost, and
`Order.ofValue?` reads them back; it also accepts numbers for decimals and leaves out what an
order need not have.
-/

namespace OrderDesk

namespace Decimal

/-- The JSON form of a decimal is its text. -/
def toValue (d : Decimal) : Value := .str d.text

/-- The decimal that a text or a number stands for. -/
def ofValue? (v : Value) : Option Decimal :=
  match v.json with
  | .str s => read? s
  | .num (.int n) => ofInt? n
  | .num (.double x) => ofBinary64? x
  | _ => none

end Decimal

namespace Side

/-- The JSON form of a side. -/
def toValue (s : Side) : Value := .str s.word

/-- The side a JSON value stands for. -/
def ofValue? : Value → Option Side := Value.asOneOf? all word

end Side

namespace OrderType

/-- The JSON form of an order type. -/
def toValue (t : OrderType) : Value := .str t.word

/-- The order type a JSON value stands for. -/
def ofValue? : Value → Option OrderType := Value.asOneOf? all word

end OrderType

namespace TimeInForce

/-- The JSON form of a time in force is in capitals. -/
def toValue (t : TimeInForce) : Value := .str t.capitals

/-- The time in force a JSON value stands for. -/
def ofValue? : Value → Option TimeInForce := Value.asOneOf? all capitals

end TimeInForce

namespace Order

/-- A value that may be missing, which is then `null`. -/
def optionalValue {α : Type} (write : α → Value) (a : Option α) : Value :=
  (a.map write).getD .null

/-- The JSON form of an order. -/
def toValue (o : Order) : Value :=
  .obj (.ofList [
    ("symbol", .str o.symbol),
    ("side", o.side.toValue),
    ("quantity", o.quantity.toValue),
    ("order_type", o.orderType.toValue),
    ("time_in_force", optionalValue TimeInForce.toValue o.timeInForce),
    ("limit_price", optionalValue Decimal.toValue o.limitPrice),
    ("stop_price", optionalValue Decimal.toValue o.stopPrice),
    ("extras", .obj o.extras)])

/-- The names of the fields of an order, in order. -/
def fieldNames : List String :=
  ["symbol", "side", "quantity", "order_type", "time_in_force", "limit_price", "stop_price",
    "extras"]

/-- The order that a JSON value stands for. -/
def ofValue? (v : Value) : Option Order := do
  match ← v.asRecord? fieldNames 1 with
  | [symbol, side, quantity, orderType, timeInForce, limitPrice, stopPrice, extras] =>
    return {
      symbol := ← symbol >>= Value.asText?
      side := ← side >>= Side.ofValue?
      quantity := ← quantity >>= Decimal.ofValue?
      orderType := ← orderType >>= OrderType.ofValue?
      timeInForce := ← Value.optionalField? TimeInForce.ofValue? timeInForce
      limitPrice := ← Value.optionalField? Decimal.ofValue? limitPrice
      stopPrice := ← Value.optionalField? Decimal.ofValue? stopPrice
      extras := ← match extras with
        | none => some .empty
        | some v => v.asPayload? }
  | _ => none

end Order

end OrderDesk
