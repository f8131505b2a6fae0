import OrderDesk.Proofs.Decimal.Reading
import OrderDesk.Proofs.Venue.Requests

/-!
# Orders are read back

The JSON form of an order has a field for each part of the order, and each part is read back from
its own form: a word as the member of its list, a decimal from its text, a part that may be missing
from its form or from `null`, and the extras as they are.
-/

namespace OrderDesk

/-- Parts that are both missing, or the same, are the same. -/
theorem eq_of_optionRel {α : Type} {a b : Option α} (h : Option.Rel Eq a b) :
  a = b
  := by
  cases h with
  | none => rfl
  | some heq => rw [heq]

namespace Value

/-- A record that was written with all its fields is read back field by field. -/
theorem asRecord?_obj_ofList {fs : List (String × Value)} {names : List String}
    (hnames : fs.map Prod.fst = names) (nodup : names.Nodup) (optional : Nat) :
  (obj (.ofList fs)).asRecord? names optional = some (fs.map fun f => some f.2)
  := by
  subst hnames
  change some ((fs.map Prod.fst).map (Payload.ofList fs).get?) = _
  rw [List.map_map]
  congr 1
  apply List.map_congr_left
  rintro ⟨key, value⟩ hmem
  apply Payload.get?_foldl_of_mem _ nodup hmem

/-- The word of a member is read as that member, if no other has it. -/
theorem asOneOf?_str {α : Type} {members : List α} {word : α → String} {a : α}
    (inj : ∀ b, word b = word a → b = a) (hmem : a ∈ members) :
  asOneOf? members word (.str (word a)) = some a
  := by
  change members.find? (fun b => word b == word a) = some a
  induction members with
  | nil => cases hmem
  | cons b members ih =>
    rw [List.find?_cons]
    split
    next heq => rw [inj b (beq_iff_eq.1 heq)]
    next hne =>
      apply ih
      apply (List.mem_cons.1 hmem).resolve_left
      rintro rfl
      simp at hne

/-- A part that may be missing is read back as the part is. -/
theorem exists_optionalField?_optionalValue {α : Type} {Same : α → α → Prop} {write : α → Value}
    {read : Value → Option α} (reads : ∀ a, ∃ b, read (write a) = some b ∧ Same a b)
    (present : ∀ a, (write a).json ≠ .null) (a : Option α) :
  ∃ b, optionalField? read (some (Order.optionalValue write a)) = some b ∧ Option.Rel Same a b
  := by
  cases a with
  | none => exact ⟨none, rfl, .none⟩
  | some a =>
    obtain ⟨b, hread, same⟩ := reads a
    refine ⟨some b, ?_, .some same⟩
    change (if (write a).json = .null then _ else (read (write a)).map some) = _
    rw [if_neg (present a), hread]
    rfl

end Value

/-! ### Parts of orders -/

theorem Side.ofValue?_toValue (s : Side) :
  ofValue? s.toValue = some s
  := by
  apply Value.asOneOf?_str fun _ => word_inj.1
  cases s with
  | _ => decide

theorem OrderType.ofValue?_toValue (t : OrderType) :
  ofValue? t.toValue = some t
  := by
  apply Value.asOneOf?_str fun _ => word_inj.1
  cases t with
  | _ => decide

theorem TimeInForce.exists_ofValue?_toValue (t : TimeInForce) :
  ∃ t', ofValue? t.toValue = some t' ∧ t = t'
  := by
  refine ⟨t, ?_, rfl⟩
  apply Value.asOneOf?_str fun _ => capitals_inj.1
  cases t with
  | _ => decide

theorem Decimal.exists_ofValue?_toValue (d : Decimal) :
  ∃ d', ofValue? d.toValue = some d' ∧ d.SameDigits d'
  := d.exists_read?_text

namespace Order

/-- The orders have decimals with the same digits, and all else is the same. -/
structure SameDigits (a b : Order) : Prop where
  symbol : a.symbol = b.symbol
  side : a.side = b.side
  quantity : a.quantity.SameDigits b.quantity
  orderType : a.orderType = b.orderType
  timeInForce : a.timeInForce = b.timeInForce
  limitPrice : Option.Rel Decimal.SameDigits a.limitPrice b.limitPrice
  stopPrice : Option.Rel Decimal.SameDigits a.stopPrice b.stopPrice
  extras : a.extras = b.extras

/-- The JSON form of an order has all its fields. -/
theorem asRecord?_toValue (o : Order) :
  o.toValue.asRecord? fieldNames 1 = some [
    some (.str o.symbol), some o.side.toValue, some o.quantity.toValue, some o.orderType.toValue,
    some (optionalValue TimeInForce.toValue o.timeInForce),
    some (optionalValue Decimal.toValue o.limitPrice),
    some (optionalValue Decimal.toValue o.stopPrice), some (.obj o.extras)]
  := by
  have nodup : fieldNames.Nodup := by decide
  refine Value.asRecord?_obj_ofList ?_ nodup 1
  rfl

/-- Orders survive their JSON form.  The JSON form of any order is read, and as an order whose
decimals have the same digits, and in which all else is the same; and so is the text that stands for
a decimal in a request.  Of the signs, only that of a zero may be lost. -/
theorem orders_survive_their_json_form (o : Order) :
  (∃ o', ofValue? o.toValue = some o' ∧ o.SameDigits o')
  ∧ ∀ d : Decimal, ∃ text d', d.toValue = .str text ∧ Decimal.read? text = some d'
      ∧ d.SameDigits d'
  := by
  constructor
  · obtain ⟨quantity, hquantity, sameQuantity⟩ := o.quantity.exists_ofValue?_toValue
    obtain ⟨timeInForce, htime, sameTime⟩ := Value.exists_optionalField?_optionalValue
      TimeInForce.exists_ofValue?_toValue (fun _ => nofun) o.timeInForce
    have price := Value.exists_optionalField?_optionalValue Decimal.exists_ofValue?_toValue
      fun _ => nofun
    obtain ⟨limitPrice, hlimit, sameLimit⟩ := price o.limitPrice
    obtain ⟨stopPrice, hstop, sameStop⟩ := price o.stopPrice
    refine ⟨⟨o.symbol, o.side, quantity, o.orderType, timeInForce, limitPrice, stopPrice, o.extras⟩,
      ?_, ?_⟩
    · rw [ofValue?, asRecord?_toValue]
      simp [hquantity, htime, hlimit, hstop, Side.ofValue?_toValue, OrderType.ofValue?_toValue]
    · exact ⟨rfl, rfl, sameQuantity, rfl, eq_of_optionRel sameTime, sameLimit, sameStop, rfl⟩
  · intro d
    obtain ⟨d', hread, same⟩ := d.exists_read?_text
    exact ⟨d.text, d', rfl, hread, same⟩

end Order

end OrderDesk
