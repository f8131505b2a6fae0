import OrderDesk.Proofs.Order.Equality
import OrderDesk.Proofs.Venue.Requests

/-!
# How orders are written

A request has the decimals of an order as texts, digit for digit, and extras as they are.  So equal
orders are put to a venue as the same request exactly if they are written alike: with the same
extras and, in the decimals that the venue is told, with as many digits behind the point and the
same signs.
-/

namespace OrderDesk

namespace Payload

variable {p q x y e f : Payload} {key reserved : String} {value value' : Value}

/-- An object without a name, with a value put under it, tells both. -/
theorem insert_inj_of_get? (hp : p.get? key = none) (hq : q.get? key = none) :
  p.insert key value = q.insert key value' ↔ p = q ∧ value = value'
  := by
  constructor
  · intro h
    have hget (other : String) :
        (p.insert key value).get? other = (q.insert key value').get? other := by
      rw [h]
    constructor
    · apply ext_get?
      intro other
      by_cases heq : other = key
      · rw [heq, hp, hq]
      · simpa [get?_insert, heq] using hget other
    · simpa [get?_insert] using hget key
  · rintro ⟨rfl, rfl⟩
    rfl

/-- Extras with the same names, laid over two objects, give the same exactly if they are the same
and the objects agree under all other names. -/
theorem overlay_inj (hx : p.overlay e reserved = .ok x) (hy : q.overlay f reserved = .ok y)
    (names : ∀ key, e.contains key = f.contains key) :
  x = y ↔ e = f ∧ ∀ key, e.get? key = none → p.get? key = q.get? key
  := by
  have names' (key : String) : e.get? key = none ↔ f.get? key = none := by
    have h := names key
    rw [contains_eq, contains_eq] at h
    rw [← Option.isNone_iff_eq_none, ← Option.isNone_iff_eq_none, ← Option.not_isSome,
      ← Option.not_isSome, h]
  constructor
  · rintro rfl
    have hget (key : String) : (e.get? key).or (p.get? key) = (f.get? key).or (q.get? key) := by
      rw [← get?_of_overlay hx, ← get?_of_overlay hy]
    constructor
    · apply ext_get?
      intro key
      have h := hget key
      rcases he : e.get? key with _ | value
      · exact ((names' key).1 he).symm
      · rcases hf : f.get? key with _ | value'
        · cases he.symm.trans ((names' key).2 hf)
        · simpa [he, hf] using h
    · intro key he
      have h := hget key
      rwa [he, (names' key).1 he, Option.none_or, Option.none_or] at h
  · rintro ⟨rfl, agree⟩
    apply ext_get?
    intro key
    rw [get?_of_overlay hx, get?_of_overlay hy]
    rcases he : e.get? key with _ | value
    · rw [agree key he]
    · rfl

end Payload

/-- The decimal, unless an extra has its name and takes its place. -/
def Order.unlessExtra (o : Order) (key : String) (d : Option Decimal) : Option Decimal :=
  if o.extras.contains key then none else d

namespace Venue

variable {venue : Venue} {id : ClientId} {a b : Order} {request : Payload}
  {key : String} {d d' : Option Decimal}

/-- The decimals of an order that a venue is told; where an extra takes the place of one, or there
is none, it is told none. -/
def sentDecimals (venue : Venue) (o : Order) : List (Option Decimal) :=
  match venue with
  | .alpaca => [o.unlessExtra "qty" o.quantity, o.unlessExtra "limit_price" o.limitPrice,
      o.unlessExtra "stop_price" o.stopPrice]
  | .oanda => [o.unlessExtra "units" (signedUnits o),
      o.unlessExtra "price" (o.limitPrice.or o.stopPrice)]
  | .ccxt => [o.quantity, if o.orderType = .market then none else o.limitPrice,
      o.unlessExtra "stopPrice" o.stopPrice]

/-- The orders are written alike for the venue: their extras are the same, and so is the spelling
of the decimals that the venue is told. -/
def WrittenAlike (venue : Venue) (a b : Order) : Prop :=
  a.extras = b.extras ∧ (venue.sentDecimals a).map (Option.map Decimal.spelling)
    = (venue.sentDecimals b).map (Option.map Decimal.spelling)

instance (venue : Venue) (a b : Order) : Decidable (venue.WrittenAlike a b) :=
  inferInstanceAs (Decidable (_ ∧ _))

/-! ### Spellings of equal orders -/

theorem rel_unlessExtra (h : a.Equal b) (hd : Option.Rel Decimal.SameValue d d') (key : String) :
  Option.Rel Decimal.SameValue (a.unlessExtra key d) (b.unlessExtra key d')
  := by
  rw [Order.unlessExtra, Order.unlessExtra, h.extras.contains_eq]
  split
  · exact .none
  · exact hd

theorem rel_signedUnits (h : a.Equal b) :
  Decimal.SameValue (signedUnits a) (signedUnits b)
  := by
  rw [signedUnits, signedUnits, h.side]
  cases b.side with
  | buy => exact h.quantity
  | sell => exact h.quantity.neg

/-- A venue is told the same values of equal orders. -/
theorem rel_sentDecimals (h : a.Equal b) (venue : Venue) :
  List.Forall₂ (Option.Rel Decimal.SameValue) (venue.sentDecimals a) (venue.sentDecimals b)
  := by
  have quantity : Option.Rel Decimal.SameValue (some a.quantity) (some b.quantity) :=
    .some h.quantity
  cases venue with
  | alpaca =>
    exact .cons (rel_unlessExtra h quantity _) (.cons (rel_unlessExtra h h.limitPrice _)
      (.cons (rel_unlessExtra h h.stopPrice _) .nil))
  | oanda =>
    have price : Option.Rel Decimal.SameValue (a.limitPrice.or a.stopPrice)
        (b.limitPrice.or b.stopPrice) := by
      have hlimit := h.limitPrice
      generalize a.limitPrice = x at hlimit
      generalize b.limitPrice = y at hlimit
      cases hlimit with
      | some hd => exact .some hd
      | none => exact h.stopPrice
    exact .cons (rel_unlessExtra h (.some (rel_signedUnits h)) _)
      (.cons (rel_unlessExtra h price _) .nil)
  | ccxt =>
    have price : Option.Rel Decimal.SameValue
        (if a.orderType = .market then none else a.limitPrice)
        (if b.orderType = .market then none else b.limitPrice) := by
      rw [h.orderType]
      split
      · exact .none
      · exact h.limitPrice
    exact .cons quantity (.cons price (.cons (rel_unlessExtra h h.stopPrice _) .nil))

/-- A venue is told the same decimals of equal orders exactly if they are spelled alike. -/
theorem sentDecimals_eq_iff (h : a.Equal b) (venue : Venue) :
  venue.sentDecimals a = venue.sentDecimals b
    ↔ (venue.sentDecimals a).map (Option.map Decimal.spelling)
      = (venue.sentDecimals b).map (Option.map Decimal.spelling)
  := by
  have hrel := rel_sentDecimals h venue
  generalize venue.sentDecimals a = sent at hrel ⊢
  generalize venue.sentDecimals b = sent' at hrel ⊢
  induction hrel with
  | nil => exact iff_of_true rfl rfl
  | cons hd _ ih =>
    rw [List.map_cons, List.map_cons, List.cons.injEq, List.cons.injEq]
    apply and_congr _ ih
    cases hd with
    | none => exact iff_of_true rfl rfl
    | some hvalue =>
      rw [Option.map_some, Option.map_some, Option.some_inj, Option.some_inj, hvalue.eq_iff]

/-! ### Requests of equal orders -/

/-- A request tells the object that extras were laid over, and at CCXT what stands beside it. -/
theorem embed_inj {x y : Payload} :
  venue.embed a x = venue.embed b y
    ↔ x = y ∧ (venue = .ccxt → ccxtFields a = ccxtFields b)
  := by
  cases venue with
  | alpaca => simp [embed]
  | oanda =>
    have told : Payload.empty.insert "order" (.obj x) = Payload.empty.insert "order" (.obj y) ↔ _ :=
      Payload.insert_inj_of_get? rfl rfl
    simpa [embed, Payload.ofList, Value.obj_inj] using told
  | ccxt =>
    have beside (o : Order) : (ccxtFields o).get? "params" = none := by
      simp [ccxtFields, Payload.ofList, Payload.get?_insertDecimal?, Payload.get?_insert]
    rw [embed, embed, Payload.insert_inj_of_get? (beside a) (beside b), Value.obj_inj]
    simp [and_comm]

theorem unlessExtra_inj (h : a.Equal b) :
  a.unlessExtra key d = b.unlessExtra key d' ↔ (a.extras.get? key = none → d = d')
  := by
  rw [Order.unlessExtra, Order.unlessExtra, ← h.extras.contains_eq, Payload.contains_eq]
  cases a.extras.get? key with
  | none => simp
  | some value => simp

/-- The names under which a profile writes decimals into the object that extras are laid over. -/
def decimalNames : Venue → List String
  | .alpaca => ["qty", "limit_price", "stop_price"]
  | .oanda => ["units", "price"]
  | .ccxt => ["stopPrice"]

section

attribute [local simp] Payload.ofList Payload.get?_insertDecimal? Payload.get?_insert
  toValue_map_inj Decimal.toValue_inj

/-- Apart from decimals, a profile writes the same for equal orders. -/
theorem get?_overlaid_of_equal (h : a.Equal b) (hkey : key ∉ venue.decimalNames) :
  (venue.overlaid id a).get? key = (venue.overlaid id b).get? key
  := by
  cases venue with
  | _ =>
    simp only [decimalNames, List.mem_cons, List.not_mem_nil, or_false, not_or] at hkey
    simp [overlaid, alpacaFields, oandaFields, ccxtParams, hkey, h.symbol, h.side, h.orderType,
      h.timeInForce]

/-- Beside the extras, a profile writes the same for equal orders exactly if the venue is told the
same decimals. -/
theorem overlaid_agree_iff (h : a.Equal b) (id : ClientId) :
  ((∀ key, a.extras.get? key = none
      → (venue.overlaid id a).get? key = (venue.overlaid id b).get? key)
    ∧ (venue = .ccxt → ccxtFields a = ccxtFields b))
    ↔ venue.sentDecimals a = venue.sentDecimals b
  := by
  cases venue with
  | alpaca =>
    simp only [sentDecimals, List.cons.injEq, unlessExtra_inj h, and_true]
    constructor
    · rintro ⟨agree, -⟩
      refine ⟨?_, ?_, ?_⟩
      · simpa [overlaid, alpacaFields] using agree "qty"
      · simpa [overlaid, alpacaFields] using agree "limit_price"
      · simpa [overlaid, alpacaFields] using agree "stop_price"
    · rintro ⟨hquantity, hlimit, hstop⟩
      refine ⟨?_, by rintro ⟨⟩⟩
      intro key spared
      by_cases hkey : key ∈ alpaca.decimalNames
      · simp only [decimalNames, List.mem_cons, List.not_mem_nil, or_false] at hkey
        obtain rfl | rfl | rfl := hkey
        · simpa [overlaid, alpacaFields] using hquantity spared
        · simpa [overlaid, alpacaFields] using hlimit spared
        · simpa [overlaid, alpacaFields] using hstop spared
      · exact get?_overlaid_of_equal h hkey
  | oanda =>
    simp only [sentDecimals, List.cons.injEq, unlessExtra_inj h, and_true]
    constructor
    · rintro ⟨agree, -⟩
      constructor
      · simpa [overlaid, oandaFields] using agree "units"
      · simpa [overlaid, oandaFields] using agree "price"
    · rintro ⟨hunits, hprice⟩
      refine ⟨?_, by rintro ⟨⟩⟩
      intro key spared
      by_cases hkey : key ∈ oanda.decimalNames
      · simp only [decimalNames, List.mem_cons, List.not_mem_nil, or_false] at hkey
        obtain rfl | rfl := hkey
        · simpa [overlaid, oandaFields] using hunits spared
        · simpa [overlaid, oandaFields] using hprice spared
      · exact get?_overlaid_of_equal h hkey
  | ccxt =>
    simp only [sentDecimals, List.cons.injEq, unlessExtra_inj h, and_true]
    constructor
    · rintro ⟨agree, hfields⟩
      have hfield (key : String) : (ccxtFields a).get? key = (ccxtFields b).get? key := by
        rw [hfields trivial]
      refine ⟨?_, ?_, ?_⟩
      · simpa [ccxtFields] using hfield "amount"
      · simpa [ccxtFields] using hfield "price"
      · simpa [overlaid, ccxtParams] using agree "stopPrice"
    · rintro ⟨hamount, hprice, hstop⟩
      constructor
      · intro key spared
        by_cases hkey : key ∈ ccxt.decimalNames
        · simp only [decimalNames, List.mem_cons, List.not_mem_nil, or_false] at hkey
          subst hkey
          simpa [overlaid, ccxtParams] using hstop spared
        · exact get?_overlaid_of_equal h hkey
      · rintro -
        rw [ccxtFields, hprice, Option.some.inj hamount, h.symbol, h.side, h.orderType]
        rfl

end

/-- Equal orders are put to a venue alike exactly if both have the reserved extra, and are turned
down for it, or they are written alike. -/
theorem buildRequest_eq_iff_of_equal (h : a.Equal b) :
  venue.buildRequest id a = venue.buildRequest id b
    ↔ a.extras.contains venue.clientIdKey = true ∨ venue.WrittenAlike a b
  := by
  have names := h.extras.contains_eq
  by_cases reserved : a.extras.contains venue.clientIdKey = true
  · rw [buildRequest, buildRequest, Payload.overlay_eq, Payload.overlay_eq, ← names,
      if_pos reserved, if_pos reserved]
    exact iff_of_true rfl (.inl reserved)
  · have laid (o : Order) (free : ¬o.extras.contains venue.clientIdKey = true) :
        ∃ inner, (venue.overlaid id o).overlay o.extras venue.clientIdKey = .ok inner :=
      ⟨_, (Payload.overlay_eq _ _ _).trans (if_neg free)⟩
    obtain ⟨x, hx⟩ := laid a reserved
    obtain ⟨y, hy⟩ := laid b (names venue.clientIdKey ▸ reserved)
    calc venue.buildRequest id a = venue.buildRequest id b
      _ ↔ venue.embed a x = venue.embed b y := by
        rw [buildRequest, buildRequest, hx, hy, Except.map, Except.map, Except.ok.injEq]
      _ ↔ (a.extras = b.extras ∧ ∀ key, a.extras.get? key = none
            → (venue.overlaid id a).get? key = (venue.overlaid id b).get? key)
          ∧ (venue = .ccxt → ccxtFields a = ccxtFields b) := by
        rw [embed_inj, Payload.overlay_inj hx hy names]
      _ ↔ venue.WrittenAlike a b := by
        rw [WrittenAlike, ← sentDecimals_eq_iff h, ← overlaid_agree_iff h id, and_assoc]
      _ ↔ a.extras.contains venue.clientIdKey = true ∨ venue.WrittenAlike a b :=
        (or_iff_right reserved).symm

/-- Of equal orders, one that has been put to the venue under an id is put to it as the same request
exactly if they are written alike. -/
theorem built_of_equal (h : a.Equal b) (built : venue.buildRequest id a = .ok request) :
  ∃ request', venue.buildRequest id b = .ok request'
    ∧ (request' = request ↔ venue.WrittenAlike a b)
  := by
  obtain ⟨_, laid, -⟩ := buildRequest_eq_ok.1 built
  have spared : a.extras.contains venue.clientIdKey = false := by
    rw [Payload.contains_eq, (Payload.overlay_eq_ok.1 laid).1]
    rfl
  have free : b.extras.get? venue.clientIdKey = none := by
    rw [h.extras.contains_eq, Payload.contains_eq] at spared
    rwa [← Option.not_isSome_iff_eq_none, Bool.not_eq_true]
  have builtb : ∃ request', venue.buildRequest id b = .ok request' :=
    ⟨_, buildRequest_eq_ok.2 ⟨_, Payload.overlay_eq_ok.2 ⟨free, rfl⟩, rfl⟩⟩
  obtain ⟨request', builtb⟩ := builtb
  refine ⟨request', builtb, ?_⟩
  have same : venue.buildRequest id a = venue.buildRequest id b ↔ _ :=
    buildRequest_eq_iff_of_equal h
  rw [built, builtb, Except.ok.injEq, spared] at same
  simpa [eq_comm] using same

end Venue

end OrderDesk
