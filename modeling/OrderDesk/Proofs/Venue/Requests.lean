import OrderDesk.Proofs.Decimal.Text
import OrderDesk.Venue.Profile

/-!
# What requests tell of orders

A request has, in the object that extras are laid over, the extras of the order and beside them
what the venue's profile writes there itself.  If no extra has one of the profile's own names, the
request tells what was written under each of them, and so the order up to what the venue is not
told: `sentTimeInForce` and `sentPrices` say what it is told of the time in force and of the
prices, and two complete orders are put to a venue as the same request exactly if they agree on
these and on everything else.
-/

namespace OrderDesk

/-! ### Words -/

theorem Side.word_inj {s s' : Side} :
  s.word = s'.word ↔ s = s'
  := by
  cases s <;> cases s' <;> decide

theorem OrderType.word_inj {t t' : OrderType} :
  t.word = t'.word ↔ t = t'
  := by
  cases t <;> cases t' <;> decide

theorem OrderType.capitals_inj {t t' : OrderType} :
  t.capitals = t'.capitals ↔ t = t'
  := by
  cases t <;> cases t' <;> decide

theorem TimeInForce.word_inj {t t' : TimeInForce} :
  t.word = t'.word ↔ t = t'
  := by
  cases t <;> cases t' <;> decide

theorem TimeInForce.capitals_inj {t t' : TimeInForce} :
  t.capitals = t'.capitals ↔ t = t'
  := by
  cases t <;> cases t' <;> decide

theorem ClientId.toValue_inj {i j : ClientId} :
  i.toValue = j.toValue ↔ i = j
  := by
  rw [toValue, toValue, Value.str_inj, text_inj]

/-! ### Complete orders -/

namespace Order

variable {o : Order}

theorem isPositive_of_isComplete (complete : o.isComplete = true) :
  o.quantity.isPositive = true
  := by
  rw [Order.isComplete, Bool.and_eq_true, Bool.and_eq_true] at complete
  exact complete.1.1

theorem limitPrice_of_isComplete (complete : o.isComplete = true)
    (needs : o.orderType.needsLimitPrice = true) :
  ∃ price, o.limitPrice = some price
  := by
  rw [Order.isComplete, Bool.and_eq_true, Bool.and_eq_true, needs] at complete
  exact Option.isSome_iff_exists.1 complete.1.2

theorem stopPrice_of_isComplete (complete : o.isComplete = true)
    (needs : o.orderType.needsStopPrice = true) :
  ∃ price, o.stopPrice = some price
  := by
  rw [Order.isComplete, Bool.and_eq_true, needs] at complete
  exact Option.isSome_iff_exists.1 complete.2

theorem ne_market_of_needsLimitPrice (needs : o.orderType.needsLimitPrice = true) :
  o.orderType ≠ .market
  := by
  intro h
  rw [h] at needs
  cases needs

end Order

namespace Payload

variable {target extras inner : Payload} {reserved : String}

/-! ### Extras -/

/-- Extras are laid over an object one after the other unless one of them has the reserved name. -/
theorem foldlM_layExtra (fs : List (String × Value)) (p : Payload) :
  fs.foldlM (layExtra reserved) p
    = if reserved ∈ fs.map Prod.fst then .error (.fatal (.invalidOrder (.reservedExtra reserved)))
      else .ok (fs.foldl (fun p f => p.insert f.1 f.2) p)
  := by
  induction fs generalizing p with
  | nil => rfl
  | cons f fs ih =>
    simp only [List.foldlM_cons, List.map_cons, List.mem_cons, layExtra]
    by_cases h : f.1 = reserved
    · rw [if_pos h, if_pos (.inl h.symm), h]
      rfl
    · simp only [h, Ne.symm h, false_or, if_false]
      apply ih

/-- Extras can be laid over an object unless one of them has the reserved name. -/
theorem overlay_eq (target extras : Payload) (reserved : String) :
  target.overlay extras reserved
    = if extras.contains reserved then .error (.fatal (.invalidOrder (.reservedExtra reserved)))
      else .ok (extras.toList.foldl (fun p f => p.insert f.1 f.2) target)
  := by
  rw [overlay, foldlM_layExtra]
  simp only [mem_names]

theorem overlay_eq_ok :
  target.overlay extras reserved = .ok inner
    ↔ extras.get? reserved = none
      ∧ extras.toList.foldl (fun p f => p.insert f.1 f.2) target = inner
  := by
  rw [overlay_eq, contains_eq]
  rcases extras.get? reserved with _ | value
  · simp
  · simp

/-- An extra takes the place of the value that the object has under its name. -/
theorem get?_of_overlay (h : target.overlay extras reserved = .ok inner) (key : String) :
  inner.get? key = (extras.get? key).or (target.get? key)
  := by
  obtain ⟨-, rfl⟩ := overlay_eq_ok.1 h
  apply get?_overlaid

/-- A decimal that there is goes under its name, and the other names keep their values. -/
theorem get?_insertDecimal? (p : Payload) (key : String) (d : Option Decimal) (other : String) :
  (p.insertDecimal? key d).get? other
    = if other = key then (d.map Decimal.toValue).or (p.get? key) else p.get? other
  := by
  cases d with
  | none =>
    rw [insertDecimal?, Option.map_none, Option.none_or]
    split
    next heq => rw [heq]
    next => rfl
  | some d => apply get?_insert

end Payload

namespace Venue

variable {venue : Venue} {id i j : ClientId} {o a b : Order} {request : Payload} {key : String}

/-- The names that the profile of a venue writes itself into the object that extras are laid
over. -/
def ownNames : Venue → List String
  | .alpaca => ["symbol", "qty", "side", "type", "time_in_force", "client_order_id",
      "limit_price", "stop_price"]
  | .oanda => ["instrument", "units", "type", "timeInForce", "positionFill", "clientExtensions",
      "price"]
  | .ccxt => ["clientOrderId", "stopPrice"]

/-- No extra of the order has one of the names that the profile writes itself. -/
def SparedBy (venue : Venue) (o : Order) : Prop := ∀ key ∈ venue.ownNames, o.extras.get? key = none

/-- The object of a request that extras have been laid over. -/
def inner? (venue : Venue) (request : Payload) : Option Payload :=
  match venue with
  | .alpaca => some request
  | .oanda => request.get? "order" >>= Value.asPayload?
  | .ccxt => request.get? "params" >>= Value.asPayload?

/-- The time in force that a venue is told; none says that it is not told any. -/
def sentTimeInForce (venue : Venue) (o : Order) : Option TimeInForce :=
  match venue with
  | .alpaca => some (o.timeInForce.getD .goodTillCancelled)
  | .oanda => some (o.timeInForce.getD .fillOrKill)
  | .ccxt => none

/-- The prices that a venue is told: those under the names for the limit price and for the stop
price.  OANDA has one name for both, and the limit price goes first there; a market order goes to
CCXT without a limit price. -/
def sentPrices (venue : Venue) (o : Order) : Option Decimal × Option Decimal :=
  match venue with
  | .alpaca => (o.limitPrice, o.stopPrice)
  | .oanda => (o.limitPrice.or o.stopPrice, none)
  | .ccxt => (if o.orderType = .market then none else o.limitPrice, o.stopPrice)

/-! ### The parts of a request -/

theorem inner?_embed (venue : Venue) (o : Order) (inner : Payload) :
  venue.inner? (venue.embed o inner) = some inner
  := by
  cases venue with
  | alpaca => rfl
  | oanda =>
    simp [inner?, embed, Payload.ofList, Payload.get?_insert]
  | ccxt =>
    simp [inner?, embed, Payload.get?_insert]

theorem buildRequest_eq_ok :
  venue.buildRequest id o = .ok request
    ↔ ∃ inner, (venue.overlaid id o).overlay o.extras venue.clientIdKey = .ok inner
      ∧ venue.embed o inner = request
  := by
  rw [buildRequest]
  rcases (venue.overlaid id o).overlay o.extras venue.clientIdKey with failure | inner
  · simp [Except.map]
  · simp [Except.map]

/-- An order cannot be put to a venue exactly if it has an extra with the venue's name for the
client id. -/
theorem buildRequest_eq_error_iff {failure : Failure} :
  venue.buildRequest id o = .error failure
    ↔ o.extras.contains venue.clientIdKey = true
      ∧ failure = .fatal (.invalidOrder (.reservedExtra venue.clientIdKey))
  := by
  rw [buildRequest, Payload.overlay_eq]
  by_cases reserved : o.extras.contains venue.clientIdKey = true
  · simp [reserved, Except.map, eq_comm]
  · simp [reserved, Except.map]

/-- In the object that they are laid over, extras stand beside what is written there. -/
theorem get?_inner (built : venue.buildRequest id o = .ok request) {inner : Payload}
    (hinner : venue.inner? request = some inner) (key : String) :
  inner.get? key = (o.extras.get? key).or ((venue.overlaid id o).get? key)
  := by
  obtain ⟨inner', hoverlay, rfl⟩ := buildRequest_eq_ok.1 built
  rw [inner?_embed] at hinner
  cases hinner
  apply Payload.get?_of_overlay hoverlay

/-- What the profile writes goes under its own names. -/
theorem get?_overlaid_of_not_mem (h : key ∉ venue.ownNames) (id : ClientId) (o : Order) :
  (venue.overlaid id o).get? key = none
  := by
  cases venue with
  | _ =>
    simp only [ownNames, List.mem_cons, not_or] at h
    simp [overlaid, alpacaFields, oandaFields, ccxtParams, Payload.ofList,
      Payload.get?_insertDecimal?, Payload.get?_insert, h]

/-- An order whose extras have none of the profile's own names can be put to the venue. -/
theorem exists_buildRequest (spared : venue.SparedBy o) (id : ClientId) :
  ∃ request, venue.buildRequest id o = .ok request
  := by
  have free : o.extras.get? venue.clientIdKey = none := by
    apply spared
    cases venue with
    | _ => decide
  exact ⟨_, buildRequest_eq_ok.2 ⟨_, Payload.overlay_eq_ok.2 ⟨free, rfl⟩, rfl⟩⟩

/-- Under its own names a profile finds what it has written there. -/
theorem get?_inner_of_spared (built : venue.buildRequest id o = .ok request)
    (spared : venue.SparedBy o) {inner : Payload} (hinner : venue.inner? request = some inner)
    (hkey : key ∈ venue.ownNames) :
  inner.get? key = (venue.overlaid id o).get? key
  := by
  rw [get?_inner built hinner, spared key hkey, Option.none_or]

/-- A request tells the extras, and what the profile has written beside them. -/
theorem overlaid_of_buildRequest (ha : venue.buildRequest i a = .ok request)
    (hb : venue.buildRequest j b = .ok request) (spareda : venue.SparedBy a)
    (sparedb : venue.SparedBy b) :
  venue.overlaid i a = venue.overlaid j b ∧ a.extras = b.extras
  := by
  obtain ⟨inner, -, hrequest⟩ := buildRequest_eq_ok.1 ha
  have hinner : venue.inner? request = some inner := by
    rw [← hrequest, inner?_embed]
  constructor
  -- under the profile's own names there is what it has written, under the others are the extras
  · apply Payload.ext_get?
    intro key
    by_cases hkey : key ∈ venue.ownNames
    · rw [← get?_inner_of_spared ha spareda hinner hkey,
        ← get?_inner_of_spared hb sparedb hinner hkey]
    · rw [get?_overlaid_of_not_mem hkey, get?_overlaid_of_not_mem hkey]
  · apply Payload.ext_get?
    intro key
    by_cases hkey : key ∈ venue.ownNames
    · rw [spareda key hkey, sparedb key hkey]
    · have hextras (o : Order) (id : ClientId) (built : venue.buildRequest id o = .ok request) :
          inner.get? key = o.extras.get? key := by
        rw [get?_inner built hinner, get?_overlaid_of_not_mem hkey, Option.or_none]
      rw [← hextras a i ha, ← hextras b j hb]

/-- A request to CCXT tells what stands beside its params. -/
theorem ccxtFields_of_buildRequest (ha : ccxt.buildRequest i a = .ok request)
    (hb : ccxt.buildRequest j b = .ok request) :
  ccxtFields a = ccxtFields b
  := by
  have hfields (o : Order) (id : ClientId) (built : ccxt.buildRequest id o = .ok request)
      (key : String) (hkey : key ≠ "params") : request.get? key = (ccxtFields o).get? key := by
    obtain ⟨inner, -, rfl⟩ := buildRequest_eq_ok.1 built
    rw [embed, Payload.get?_insert, if_neg hkey]
  have hparams (o : Order) : (ccxtFields o).get? "params" = none := by
    simp [ccxtFields, Payload.ofList, Payload.get?_insertDecimal?, Payload.get?_insert]
  apply Payload.ext_get?
  intro key
  by_cases hkey : key = "params"
  · rw [hkey, hparams, hparams]
  · rw [← hfields a i ha key hkey, ← hfields b j hb key hkey]

/-! ### What a venue is told -/

/-- Two orders are alike in all that the venue is told. -/
structure Alike (venue : Venue) (a b : Order) : Prop where
  symbol : a.symbol = b.symbol
  side : a.side = b.side
  quantity : a.quantity = b.quantity
  orderType : a.orderType = b.orderType
  extras : a.extras = b.extras
  timeInForce : venue.sentTimeInForce a = venue.sentTimeInForce b
  prices : venue.sentPrices a = venue.sentPrices b

theorem toValue_map_inj {d d' : Option Decimal} :
  d.map Decimal.toValue = d'.map Decimal.toValue ↔ d = d'
  := (Option.map_injective fun _ _ => Decimal.toValue_inj.1).eq_iff

/-- The signed units of an order with a quantity above zero tell its side and its quantity. -/
theorem signedUnits_inj (ha : a.quantity.isPositive = true) (hb : b.quantity.isPositive = true) :
  signedUnits a = signedUnits b ↔ a.side = b.side ∧ a.quantity = b.quantity
  := by
  have hna := Decimal.negative_of_isPositive ha
  have hnb := Decimal.negative_of_isPositive hb
  -- neither quantity has a sign of its own, so that the sign of the units is the side
  have opposite (d d' : Decimal) (h : d.negative = false) (h' : d'.negative = false) :
      d ≠ d'.neg := by
    rintro rfl
    simp [Decimal.neg, h'] at h
  rw [signedUnits, signedUnits]
  cases a.side with
  | buy =>
    cases b.side with
    | buy => simp
    | sell => simpa using opposite _ _ hna hnb
  | sell =>
    cases b.side with
    | buy => simpa [eq_comm] using opposite _ _ hnb hna
    | sell => simp [Decimal.neg_inj]

/-! ### Requests that are the same -/

section

attribute [local simp] Payload.ofList Payload.get?_insertDecimal? Payload.get?_insert Value.str_inj
  toValue_map_inj Decimal.toValue_inj ClientId.toValue_inj Side.word_inj OrderType.word_inj
  OrderType.capitals_inj TimeInForce.word_inj TimeInForce.capitals_inj

theorem alpacaFields_inj (extras : a.extras = b.extras) :
  alpacaFields i a = alpacaFields j b ↔ i = j ∧ alpaca.Alike a b
  := by
  constructor
  · intro h
    have hkey (key : String) : (alpacaFields i a).get? key = (alpacaFields j b).get? key := by
      rw [h]
    have hid : i = j := by simpa [alpacaFields] using hkey "client_order_id"
    have hlimit : a.limitPrice = b.limitPrice := by simpa [alpacaFields] using hkey "limit_price"
    have hstop : a.stopPrice = b.stopPrice := by simpa [alpacaFields] using hkey "stop_price"
    refine ⟨hid, ?_, ?_, ?_, ?_, extras, ?_, ?_⟩
    · simpa [alpacaFields] using hkey "symbol"
    · simpa [alpacaFields] using hkey "side"
    · simpa [alpacaFields] using hkey "qty"
    · simpa [alpacaFields] using hkey "type"
    · simpa [alpacaFields, sentTimeInForce] using hkey "time_in_force"
    · rw [sentPrices, hlimit, hstop]
      rfl
  · rintro ⟨rfl, h⟩
    have htime := Option.some.inj h.timeInForce
    have hprices := Prod.ext_iff.1 h.prices
    dsimp only [sentPrices] at hprices
    rw [alpacaFields, h.symbol, h.quantity, h.side, h.orderType, htime, hprices.1, hprices.2]
    rfl

theorem oandaFields_inj (ha : a.quantity.isPositive = true) (hb : b.quantity.isPositive = true)
    (extras : a.extras = b.extras) :
  oandaFields i a = oandaFields j b ↔ i = j ∧ oanda.Alike a b
  := by
  constructor
  · intro h
    have hkey (key : String) : (oandaFields i a).get? key = (oandaFields j b).get? key := by
      rw [h]
    have hextensions : Payload.ofList [("id", i.toValue)] = .ofList [("id", j.toValue)] := by
      simpa [oandaFields, Value.obj_inj] using hkey "clientExtensions"
    have hid : i = j := by
      simpa using congrArg (Payload.get? · "id") hextensions
    have hunits : signedUnits a = signedUnits b := by simpa [oandaFields] using hkey "units"
    obtain ⟨hside, hquantity⟩ := (signedUnits_inj ha hb).1 hunits
    have hprice : a.limitPrice.or a.stopPrice = b.limitPrice.or b.stopPrice := by
      simpa [oandaFields] using hkey "price"
    refine ⟨hid, ?_, hside, hquantity, ?_, extras, ?_, ?_⟩
    · simpa [oandaFields] using hkey "instrument"
    · simpa [oandaFields] using hkey "type"
    · simpa [oandaFields, sentTimeInForce] using hkey "timeInForce"
    · rw [sentPrices, hprice]
      rfl
  · rintro ⟨rfl, h⟩
    have hunits := (signedUnits_inj ha hb).2 ⟨h.side, h.quantity⟩
    have htime := Option.some.inj h.timeInForce
    have hprice := congrArg Prod.fst h.prices
    dsimp only [sentPrices] at hprice
    rw [oandaFields, h.symbol, hunits, h.orderType, htime, hprice]
    rfl

theorem ccxtParams_inj (extras : a.extras = b.extras) :
  ccxtParams i a = ccxtParams j b ∧ ccxtFields a = ccxtFields b ↔ i = j ∧ ccxt.Alike a b
  := by
  constructor
  · rintro ⟨hparams, hfields⟩
    have hparam (key : String) : (ccxtParams i a).get? key = (ccxtParams j b).get? key := by
      rw [hparams]
    have hfield (key : String) : (ccxtFields a).get? key = (ccxtFields b).get? key := by
      rw [hfields]
    have hid : i = j := by simpa [ccxtParams] using hparam "clientOrderId"
    have hstop : a.stopPrice = b.stopPrice := by simpa [ccxtParams] using hparam "stopPrice"
    have hprice : (if a.orderType = .market then none else a.limitPrice)
        = if b.orderType = .market then none else b.limitPrice := by
      simpa [ccxtFields] using hfield "price"
    refine ⟨hid, ?_, ?_, ?_, ?_, extras, rfl, ?_⟩
    · simpa [ccxtFields] using hfield "symbol"
    · simpa [ccxtFields] using hfield "side"
    · simpa [ccxtFields] using hfield "amount"
    · simpa [ccxtFields] using hfield "type"
    · rw [sentPrices, hprice, hstop]
      rfl
  · rintro ⟨rfl, h⟩
    have hprices := Prod.ext_iff.1 h.prices
    dsimp only [sentPrices] at hprices
    constructor
    · rw [ccxtParams, hprices.2]
      rfl
    · rw [ccxtFields, hprices.1, h.symbol, h.orderType, h.side, h.quantity]
      rfl

end

/-- What a profile writes into a request, extras apart, tells the client id and what the venue is
told of the order; at OANDA the sign of the units must be that of the side. -/
theorem overlaid_inj (ha : venue = .oanda → a.quantity.isPositive = true)
    (hb : venue = .oanda → b.quantity.isPositive = true) (extras : a.extras = b.extras) :
  (venue.overlaid i a = venue.overlaid j b ∧ (venue = .ccxt → ccxtFields a = ccxtFields b))
    ↔ i = j ∧ venue.Alike a b
  := by
  cases venue with
  | alpaca => simpa [overlaid] using alpacaFields_inj extras
  | oanda => simpa [overlaid] using oandaFields_inj (ha rfl) (hb rfl) extras
  | ccxt => simpa [overlaid] using ccxtParams_inj extras

/-- Two orders are put to a venue as the same request exactly if they go out under the same client
id and are alike in all that the venue is told. -/
theorem buildRequest_eq_iff (ha : venue = .oanda → a.quantity.isPositive = true)
    (hb : venue = .oanda → b.quantity.isPositive = true) (spareda : venue.SparedBy a)
    (sparedb : venue.SparedBy b) :
  venue.buildRequest i a = venue.buildRequest j b ↔ i = j ∧ venue.Alike a b
  := by
  constructor
  · intro heq
    obtain ⟨request, builta⟩ := exists_buildRequest spareda i
    have builtb : venue.buildRequest j b = .ok request := heq.symm.trans builta
    obtain ⟨hoverlaid, hextras⟩ := overlaid_of_buildRequest builta builtb spareda sparedb
    apply (overlaid_inj ha hb hextras).1
    refine ⟨hoverlaid, ?_⟩
    rintro rfl
    apply ccxtFields_of_buildRequest builta builtb
  · intro h
    obtain ⟨hoverlaid, hfields⟩ := (overlaid_inj ha hb h.2.extras).2 h
    have hembed : venue.embed a = venue.embed b := by
      cases venue with
      | alpaca => rfl
      | oanda => rfl
      | ccxt =>
        funext inner
        rw [embed, hfields rfl]
        rfl
    rw [buildRequest, hoverlaid, h.2.extras, hembed]
    rfl

/-- Complete orders have a quantity above zero, so that its sign does not get in the way. -/
theorem buildRequest_inj (completea : a.isComplete = true) (completeb : b.isComplete = true)
    (spareda : venue.SparedBy a) (sparedb : venue.SparedBy b) :
  venue.buildRequest i a = venue.buildRequest j b ↔ i = j ∧ venue.Alike a b
  := by
  apply buildRequest_eq_iff _ _ spareda sparedb
  · rintro -
    apply Order.isPositive_of_isComplete completea
  · rintro -
    apply Order.isPositive_of_isComplete completeb

/-! ### Prices that reach the venue -/

/-- The path to the limit price in a request. -/
def limitPricePath : Venue → List String
  | .alpaca => ["limit_price"]
  | .oanda => ["order", "price"]
  | .ccxt => ["price"]

/-- The path to the stop price in a request; at OANDA it is that to the limit price. -/
def stopPricePath : Venue → List String
  | .alpaca => ["stop_price"]
  | .oanda => ["order", "price"]
  | .ccxt => ["params", "stopPrice"]

/-- A value under one of the profile's own names is found in the object that extras are laid
over. -/
theorem get?_of_inner? (built : venue.buildRequest id o = .ok request)
    (spared : venue.SparedBy o) (hkey : key ∈ venue.ownNames) :
  (venue.inner? request >>= (Payload.get? · key)) = (venue.overlaid id o).get? key
  := by
  obtain ⟨inner, -, hrequest⟩ := buildRequest_eq_ok.1 built
  have hinner : venue.inner? request = some inner := by
    rw [← hrequest, inner?_embed]
  rw [hinner]
  apply get?_inner_of_spared built spared hinner hkey

/-- Where a venue looks for the limit price, it finds the first of the prices that it is told. -/
theorem lookup?_limitPricePath (built : venue.buildRequest id o = .ok request)
    (spared : venue.SparedBy o) :
  request.lookup? venue.limitPricePath = (venue.sentPrices o).1.map Decimal.toValue
  := by
  cases venue with
  | alpaca =>
    have hkey : "limit_price" ∈ alpaca.ownNames := by decide
    refine (get?_of_inner? built spared hkey).trans ?_
    simp [overlaid, alpacaFields, sentPrices, Payload.ofList, Payload.get?_insertDecimal?,
      Payload.get?_insert]
  | oanda =>
    have hkey : "price" ∈ oanda.ownNames := by decide
    refine (get?_of_inner? built spared hkey).trans ?_
    simp [overlaid, oandaFields, sentPrices, Payload.ofList, Payload.get?_insertDecimal?,
      Payload.get?_insert]
  | ccxt =>
    obtain ⟨inner, -, rfl⟩ := buildRequest_eq_ok.1 built
    simp [limitPricePath, Payload.lookup?, embed, ccxtFields, sentPrices, Payload.ofList,
      Payload.get?_insertDecimal?, Payload.get?_insert]

/-- Where a venue looks for the stop price, it finds it, unless it looks for the limit price
there. -/
theorem lookup?_stopPricePath (built : venue.buildRequest id o = .ok request)
    (spared : venue.SparedBy o) (apart : venue ≠ .oanda) :
  request.lookup? venue.stopPricePath = o.stopPrice.map Decimal.toValue
  := by
  cases venue with
  | alpaca =>
    have hkey : "stop_price" ∈ alpaca.ownNames := by decide
    refine (get?_of_inner? built spared hkey).trans ?_
    simp [overlaid, alpacaFields, Payload.ofList, Payload.get?_insertDecimal?,
      Payload.get?_insert]
  | oanda => exact absurd rfl apart
  | ccxt =>
    have hkey : "stopPrice" ∈ ccxt.ownNames := by decide
    refine (get?_of_inner? built spared hkey).trans ?_
    simp [overlaid, ccxtParams, Payload.ofList, Payload.get?_insertDecimal?, Payload.get?_insert]

/-! ### What is kept of an order -/

/-- A venue has another place for the stop price of an order than for its limit price, or there is
no limit price that could take it. -/
def HasStopPlace (venue : Venue) (o : Order) : Prop := venue = .oanda → o.limitPrice = none

/-- A limit price that an order needs goes first among the prices that the venue is told. -/
theorem sentPrices_of_needsLimitPrice (complete : o.isComplete = true)
    (needs : o.orderType.needsLimitPrice = true) (venue : Venue) :
  (venue.sentPrices o).1 = o.limitPrice
  := by
  obtain ⟨price, hprice⟩ := Order.limitPrice_of_isComplete complete needs
  cases venue with
  | alpaca => rfl
  | oanda => rw [sentPrices, hprice, Option.some_or]
  | ccxt => rw [sentPrices, if_neg (Order.ne_market_of_needsLimitPrice needs)]

/-- A limit price that an order needs reaches the venue. -/
theorem limitPrice_reaches (built : venue.buildRequest id o = .ok request)
    (complete : o.isComplete = true) (spared : venue.SparedBy o)
    (needs : o.orderType.needsLimitPrice = true) :
  ∃ price, o.limitPrice = some price
    ∧ request.lookup? venue.limitPricePath = some price.toValue
  := by
  obtain ⟨price, hprice⟩ := Order.limitPrice_of_isComplete complete needs
  refine ⟨price, hprice, ?_⟩
  rw [lookup?_limitPricePath built spared, sentPrices_of_needsLimitPrice complete needs, hprice]
  rfl

/-- A stop price that an order needs reaches the venue if there is a place for it. -/
theorem stopPrice_reaches (built : venue.buildRequest id o = .ok request)
    (complete : o.isComplete = true) (spared : venue.SparedBy o)
    (needs : o.orderType.needsStopPrice = true) (place : venue.HasStopPlace o) :
  ∃ price, o.stopPrice = some price
    ∧ request.lookup? venue.stopPricePath = some price.toValue
  := by
  obtain ⟨price, hprice⟩ := Order.stopPrice_of_isComplete complete needs
  refine ⟨price, hprice, ?_⟩
  by_cases apart : venue = .oanda
  · subst apart
    refine (lookup?_limitPricePath built spared).trans ?_
    rw [sentPrices, place rfl, hprice]
    rfl
  · rw [lookup?_stopPricePath built spared apart, hprice]
    rfl

namespace Alike

theorem timeInForce_eq (h : venue.Alike a b) (told : venue ≠ .ccxt) {t t' : TimeInForce}
    (ha : a.timeInForce = some t) (hb : b.timeInForce = some t') :
  t = t'
  := by
  have htime := h.timeInForce
  cases venue with
  | alpaca =>
    rw [sentTimeInForce, sentTimeInForce, ha, hb] at htime
    exact Option.some.inj htime
  | oanda =>
    rw [sentTimeInForce, sentTimeInForce, ha, hb] at htime
    exact Option.some.inj htime
  | ccxt => exact absurd rfl told

theorem limitPrice_eq (h : venue.Alike a b) (completea : a.isComplete = true)
    (completeb : b.isComplete = true) (needs : a.orderType.needsLimitPrice = true) :
  a.limitPrice = b.limitPrice
  := by
  have needs' : b.orderType.needsLimitPrice = true := h.orderType ▸ needs
  rw [← sentPrices_of_needsLimitPrice completea needs venue,
    ← sentPrices_of_needsLimitPrice completeb needs' venue, h.prices]

theorem stopPrice_eq (h : venue.Alike a b) (placea : venue.HasStopPlace a)
    (placeb : venue.HasStopPlace b) :
  a.stopPrice = b.stopPrice
  := by
  have hprices := h.prices
  cases venue with
  | alpaca => exact congrArg Prod.snd hprices
  | oanda =>
    rw [sentPrices, sentPrices, placea rfl, placeb rfl] at hprices
    exact congrArg Prod.fst hprices
  | ccxt => exact congrArg Prod.snd hprices

end Alike

end Venue

end OrderDesk
