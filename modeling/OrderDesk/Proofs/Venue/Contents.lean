import OrderDesk.Proofs.Venue.Annotations
import OrderDesk.Proofs.Venue.Requests

/-!
# What is in a request

A request can be built unless an extra has the venue's name for the client id.  Then the object that
extras are laid over has under each name the extra of that name, or else what the profile computes
from the order, `computed?`; around that object the request is the one without extras.  At Alpaca
every field of the order is written there digit for digit, so that the request tells the order if
no extra stands in the way.
-/

namespace OrderDesk

/-- A value inserted under a name gives way to the one that is inserted there next. -/
theorem Payload.insert_insert (p : Payload) (key : String) (value value' : Value) :
  (p.insert key value).insert key value' = p.insert key value'
  := by
  apply ext_get?
  intro other
  rw [get?_insert, get?_insert, get?_insert]
  split
  · rfl
  · rfl

namespace Venue

variable {venue : Venue} {id : ClientId} {o a b : Order} {request : Payload}

/-! ### Extras and computed values -/

/-- What the profile of a venue computes from an order, the extras apart, and writes under a name of
the object that extras are laid over. -/
def computed? (venue : Venue) (id : ClientId) (o : Order) (key : String) : Option Value :=
  match venue, key with
  | .alpaca, "symbol" => some (.str o.symbol)
  | .alpaca, "qty" => some o.quantity.toValue
  | .alpaca, "side" => some (.str o.side.word)
  | .alpaca, "type" => some (.str o.orderType.word)
  | .alpaca, "time_in_force" => some (.str (o.timeInForce.getD .goodTillCancelled).word)
  | .alpaca, "client_order_id" => some id.toValue
  | .alpaca, "limit_price" => o.limitPrice.map Decimal.toValue
  | .alpaca, "stop_price" => o.stopPrice.map Decimal.toValue
  | .oanda, "instrument" => some (.str o.symbol)
  | .oanda, "units" => some (signedUnits o).toValue
  | .oanda, "type" => some (.str o.orderType.capitals)
  | .oanda, "timeInForce" => some (.str (o.timeInForce.getD .fillOrKill).capitals)
  | .oanda, "positionFill" => some (.str "DEFAULT")
  | .oanda, "clientExtensions" => some (.obj (.ofList [("id", id.toValue)]))
  | .oanda, "price" => (o.limitPrice.or o.stopPrice).map Decimal.toValue
  | .ccxt, "clientOrderId" => some id.toValue
  | .ccxt, "stopPrice" => o.stopPrice.map Decimal.toValue
  | _, _ => none

/-- A request with another object in place of the one that extras are laid over. -/
def withInner (venue : Venue) (request inner : Payload) : Payload :=
  match venue with
  | .alpaca => inner
  | .oanda => request.insert "order" (.obj inner)
  | .ccxt => request.insert "params" (.obj inner)

/-- Before extras are laid over it the object has the computed values and no others. -/
theorem get?_overlaid_eq_computed? (venue : Venue) (id : ClientId) (o : Order) (key : String) :
  (venue.overlaid id o).get? key = venue.computed? id o key
  := by
  cases venue with
  | _ =>
    rw [computed?.eq_def]
    split
    all_goals
      simp_all [overlaid, alpacaFields, oandaFields, ccxtParams, Payload.ofList,
        Payload.get?_insertDecimal?, Payload.get?_insert]

/-- The object that extras were laid over has under each name the extra of that name, or else the
computed value. -/
theorem get?_inner_eq (built : venue.buildRequest id o = .ok request) {inner : Payload}
    (hinner : venue.inner? request = some inner) (key : String) :
  inner.get? key = (o.extras.get? key).or (venue.computed? id o key)
  := by
  rw [get?_inner built hinner, get?_overlaid_eq_computed?]

/-- Where no extra has the venue's name for the client id, the id is found. -/
theorem lookup?_clientIdPath_inner (built : venue.buildRequest id o = .ok request)
    {inner : Payload} (hinner : venue.inner? request = some inner) :
  inner.lookup? venue.clientIdPath = some id.toValue
  := by
  obtain ⟨_, laid, -⟩ := buildRequest_eq_ok.1 built
  have free : o.extras.get? venue.clientIdKey = none := (Payload.overlay_eq_ok.1 laid).1
  have hvalue := get?_inner_eq built hinner venue.clientIdKey
  rw [free, Option.none_or] at hvalue
  cases venue with
  | alpaca => exact hvalue
  | oanda =>
    change inner.get? "clientExtensions" = _ at hvalue
    change (inner.get? "clientExtensions" >>= Value.asPayload?) >>= _ = _
    rw [hvalue]
    rfl
  | ccxt => exact hvalue

/-- Requests for one order are the same around the object that extras are laid over. -/
theorem embed_eq_withInner (venue : Venue) (o : Order) (inner inner' : Payload) :
  venue.embed o inner' = venue.withInner (venue.embed o inner) inner'
  := by
  cases venue with
  | alpaca => rfl
  | oanda =>
    rw [embed, embed, withInner]
    exact (Payload.insert_insert .empty "order" _ _).symm
  | ccxt => exact (Payload.insert_insert _ "params" _ _).symm

/-- What stands around the object that extras are laid over does not depend on them. -/
theorem embed_withExtras (venue : Venue) (o : Order) (extras : Payload) :
  venue.embed { o with extras } = venue.embed o
  := by
  cases venue with
  | _ => rfl

/-- An order without extras can be put to the venue. -/
theorem exists_buildRequest_plain (venue : Venue) (id : ClientId) (o : Order) :
  ∃ plain, venue.buildRequest id { o with extras := .empty } = .ok plain
  := by
  apply exists_buildRequest
  intro key hkey
  rfl

/-- Extras overlay the request and never the client id.  No request can be built exactly if an extra
has the venue's name for the client id, whatever other extras come before or after it, and this is
what the failure says.  Otherwise the object that the extras have been laid over has under each name
the extra of that name, or else what is computed from the order, and nothing under any other name;
it has the given id where the venue looks for it; and around it the request is the one for the order
without extras. -/
theorem extras_overlay_the_request_but_not_the_id (venue : Venue) (id : ClientId) (o : Order) :
  (∀ failure, venue.buildRequest id o = .error failure
    ↔ o.extras.contains venue.clientIdKey = true
      ∧ failure = .fatal (.invalidOrder (.reservedExtra venue.clientIdKey)))
  ∧ ∃ plain, venue.buildRequest id { o with extras := .empty } = .ok plain
    ∧ ∀ request, venue.buildRequest id o = .ok request →
      ∃ inner, venue.inner? request = some inner
        ∧ (∀ key, inner.get? key = (o.extras.get? key).or (venue.computed? id o key))
        ∧ inner.lookup? venue.clientIdPath = some id.toValue
        ∧ request = venue.withInner plain inner
  := by
  refine ⟨fun failure => buildRequest_eq_error_iff, ?_⟩
  obtain ⟨plain, hplain⟩ := exists_buildRequest_plain venue id o
  refine ⟨plain, hplain, ?_⟩
  intro request built
  obtain ⟨inner, -, hrequest⟩ := buildRequest_eq_ok.1 built
  obtain ⟨plainInner, -, hplainRequest⟩ := buildRequest_eq_ok.1 hplain
  have hinner : venue.inner? request = some inner := by rw [← hrequest, inner?_embed]
  refine ⟨inner, hinner, get?_inner_eq built hinner, lookup?_clientIdPath_inner built hinner, ?_⟩
  rw [← hrequest, ← hplainRequest, embed_withExtras]
  apply embed_eq_withInner

/-- An extra takes the place of the quantity, another one that of a price that the order has not. -/
example :
    let extras := (Payload.empty.insert "qty" (.str "2")).insert "limit_price" (.str "9")
    let order : Order := .market "EUR" .buy ⟨false, 1, 0, by decide, by decide⟩
    let request := Venue.alpaca.buildRequest ⟨"x"⟩ { order with extras }
    request.toOption.map (fun r => (r.get? "qty", r.get? "limit_price", r.get? "stop_price"))
      = some (some (.str "2"), some (.str "9"), none) := by
  decide +kernel

/-! ### Orders that are told -/

instance : Decidable (venue.SparedBy o) :=
  inferInstanceAs (Decidable (∀ key ∈ venue.ownNames, _))

/-- Alpaca is told everything of an order, its default time in force written out. -/
theorem alike_alpaca_iff :
  alpaca.Alike a b
    ↔ a.withTimeInForce (a.timeInForce.getD .goodTillCancelled)
      = b.withTimeInForce (b.timeInForce.getD .goodTillCancelled)
  := by
  constructor
  · intro h
    have hprices := Prod.ext_iff.1 h.prices
    dsimp only [sentPrices] at hprices
    have htime := Option.some.inj h.timeInForce
    rw [Order.withTimeInForce, Order.withTimeInForce, h.symbol, h.side, h.quantity, h.orderType,
      h.extras, hprices.1, hprices.2, htime]
  · intro h
    simp only [Order.withTimeInForce, Order.mk.injEq] at h
    obtain ⟨hsymbol, hside, hquantity, hType, htime, hlimit, hstop, hextras⟩ := h
    refine ⟨hsymbol, hside, hquantity, hType, hextras, htime, ?_⟩
    rw [sentPrices, sentPrices, hlimit, hstop]

/-- A request to Alpaca tells the order.  Of two orders whose extras have none of the names that the
profile writes itself, each can be put to Alpaca under any id; and they are put to it as the same
request exactly if the ids are the same and the orders are the same in every field, down to the
digits, the scales and the signs of the quantity and of both prices and to the whole of the extras,
where an order without a time in force counts as one that is good till cancelled. -/
theorem alpaca_requests_tell_the_order (i j : ClientId) (a b : Order) (spareda : alpaca.SparedBy a)
    (sparedb : alpaca.SparedBy b) :
  (∃ request, alpaca.buildRequest i a = .ok request)
  ∧ (alpaca.buildRequest i a = alpaca.buildRequest j b
    ↔ i = j ∧ a.withTimeInForce (a.timeInForce.getD .goodTillCancelled)
        = b.withTimeInForce (b.timeInForce.getD .goodTillCancelled))
  := by
  have elsewhere (o : Order) : alpaca = .oanda → o.quantity.isPositive = true := nofun
  refine ⟨exists_buildRequest spareda i, ?_⟩
  rw [buildRequest_eq_iff (elsewhere a) (elsewhere b) spareda sparedb, alike_alpaca_iff]

/-- A buy of ten at a limit of `1.50` is put to Alpaca as the same request with and without `gtc`,
and as another one with a limit of `1.5`. -/
theorem alpaca_requests_tell_a_limit_order :
  let order (price : Decimal) : Order :=
    (Order.limit "AAPL" .buy ⟨false, 10, 0, by decide, by decide⟩ price).withExtra
      "extended_hours" (.bool true)
  let exact := order ⟨false, 150, 2, by decide, by decide⟩
  let short := order ⟨false, 15, 1, by decide, by decide⟩
  alpaca.SparedBy exact ∧ alpaca.SparedBy (exact.withTimeInForce .goodTillCancelled)
    ∧ alpaca.SparedBy short
    ∧ alpaca.buildRequest ⟨"x"⟩ exact
      = alpaca.buildRequest ⟨"x"⟩ (exact.withTimeInForce .goodTillCancelled)
    ∧ alpaca.buildRequest ⟨"x"⟩ exact ≠ alpaca.buildRequest ⟨"x"⟩ short
  := by
  intro order exact short
  have hexact : alpaca.SparedBy exact := by decide +kernel
  have hlasting : alpaca.SparedBy (exact.withTimeInForce .goodTillCancelled) := by decide +kernel
  have hshort : alpaca.SparedBy short := by decide +kernel
  refine ⟨hexact, hlasting, hshort, ?_, ?_⟩
  · apply (alpaca_requests_tell_the_order ⟨"x"⟩ ⟨"x"⟩ exact _ hexact hlasting).2.2
    exact ⟨rfl, rfl⟩
  · intro heq
    have same := ((alpaca_requests_tell_the_order ⟨"x"⟩ ⟨"x"⟩ exact short hexact hshort).2.1 heq).2
    have hprices := congrArg Order.limitPrice same
    revert hprices
    decide +kernel

end Venue

end OrderDesk
