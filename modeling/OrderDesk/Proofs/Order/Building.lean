import OrderDesk.Order.Basic
import OrderDesk.Proofs.Json.Objects
import OrderDesk.Proofs.Sequence.Last

/-!
# Building orders

An order is built by giving it a time in force, prices and extras, one after the other.  Each step
writes one place of the order and leaves the rest alone, so that in the end every place holds the
last value that it was given, or what it held before; in which order the places were written, and
what they were given in between, is of no matter.
-/

namespace OrderDesk

namespace Order

/-- A step of building an order. -/
inductive Amendment where
  | timeInForce (value : TimeInForce)
  | limitPrice (value : Decimal)
  | stopPrice (value : Decimal)
  | extra (key : String) (value : Value)
deriving DecidableEq

/-- The order after a step. -/
def amend (o : Order) : Amendment → Order
  | .timeInForce value => o.withTimeInForce value
  | .limitPrice value => o.withLimitPrice value
  | .stopPrice value => o.withStopPrice value
  | .extra key value => o.withExtra key value

/-- The order after a sequence of steps. -/
def amended (o : Order) (steps : List Amendment) : Order := steps.foldl amend o

namespace Amendment

/-- The time in force that a step gives. -/
def timeInForce? : Amendment → Option TimeInForce
  | .timeInForce value => some value
  | _ => none

/-- The limit price that a step gives. -/
def limitPrice? : Amendment → Option Decimal
  | .limitPrice value => some value
  | _ => none

/-- The stop price that a step gives. -/
def stopPrice? : Amendment → Option Decimal
  | .stopPrice value => some value
  | _ => none

/-- The extra that a step gives under a name. -/
def extra? (key : String) : Amendment → Option Value
  | .extra key' value => if key' = key then some value else none
  | _ => none

/-- The last of the values that steps give. -/
def last? {α : Type} (given : Amendment → Option α) (steps : List Amendment) : Option α :=
  (steps.filterMap given).getLast?

/-- Both sequences of steps give every field, and the extra under every name, the same last value,
or both of them give it none. -/
structure SameLast (steps steps' : List Amendment) : Prop where
  timeInForce : last? timeInForce? steps = last? timeInForce? steps'
  limitPrice : last? limitPrice? steps = last? limitPrice? steps'
  stopPrice : last? stopPrice? steps = last? stopPrice? steps'
  extra (key : String) : last? (extra? key) steps = last? (extra? key) steps'

end Amendment

open Amendment

variable {steps steps' : List Amendment}

/-! ### Steps -/

/-- What an order has from the beginning and keeps. -/
def fixed (o : Order) : String × Side × Decimal × OrderType :=
  (o.symbol, o.side, o.quantity, o.orderType)

theorem ext_fixed {a b : Order} (fixed : a.fixed = b.fixed)
    (timeInForce : a.timeInForce = b.timeInForce) (limitPrice : a.limitPrice = b.limitPrice)
    (stopPrice : a.stopPrice = b.stopPrice) (extras : a.extras = b.extras) :
  a = b
  := by
  cases a
  cases b
  simp_all [Order.fixed]

theorem fixed_amend (o : Order) (a : Amendment) :
  (o.amend a).fixed = o.fixed
  := by
  cases a with
  | _ => rfl

theorem timeInForce_amend (o : Order) (a : Amendment) :
  (o.amend a).timeInForce = (timeInForce? a).or o.timeInForce
  := by
  cases a with
  | _ => rfl

theorem limitPrice_amend (o : Order) (a : Amendment) :
  (o.amend a).limitPrice = (limitPrice? a).or o.limitPrice
  := by
  cases a with
  | _ => rfl

theorem stopPrice_amend (o : Order) (a : Amendment) :
  (o.amend a).stopPrice = (stopPrice? a).or o.stopPrice
  := by
  cases a with
  | _ => rfl

theorem get?_extras_amend (key : String) (o : Order) (a : Amendment) :
  (o.amend a).extras.get? key = (extra? key a).or (o.extras.get? key)
  := by
  cases a with
  | extra key' value =>
    change (o.extras.insert key' value).get? key = _
    rw [Payload.get?_insert, extra?]
    by_cases heq : key' = key
    · rw [if_pos heq, if_pos heq.symm]
      rfl
    · rw [if_neg heq, if_neg (Ne.symm heq)]
      rfl
  | _ => rfl

/-! ### Sequences of steps -/

theorem fixed_amended (o : Order) (steps : List Amendment) :
  (o.amended steps).fixed = o.fixed
  := by
  induction steps generalizing o with
  | nil => rfl
  | cons a steps ih => exact (ih (o.amend a)).trans (o.fixed_amend a)

/-- The order has in every place the last value that the steps give it, or else what another order
has there, and is that order in all that no step gives. -/
structure HoldsLast (a : Order) (steps : List Amendment) (o : Order) : Prop where
  fixed : a.fixed = o.fixed
  timeInForce : a.timeInForce = (last? timeInForce? steps).or o.timeInForce
  limitPrice : a.limitPrice = (last? limitPrice? steps).or o.limitPrice
  stopPrice : a.stopPrice = (last? stopPrice? steps).or o.stopPrice
  extra (key : String) : a.extras.get? key = (last? (extra? key) steps).or (o.extras.get? key)

theorem holdsLast_amended (o : Order) (steps : List Amendment) :
  (o.amended steps).HoldsLast steps o
  where
  fixed := o.fixed_amended steps
  timeInForce := foldl_of_written Order.timeInForce timeInForce_amend o steps
  limitPrice := foldl_of_written Order.limitPrice limitPrice_amend o steps
  stopPrice := foldl_of_written Order.stopPrice stopPrice_amend o steps
  extra key := foldl_of_written (fun o => o.extras.get? key) (get?_extras_amend key) o steps

/-- An order that holds the last values is determined by them. -/
theorem HoldsLast.eq {a b o : Order} (ha : a.HoldsLast steps o) (hb : b.HoldsLast steps' o)
    (same : SameLast steps steps') :
  a = b
  := by
  apply ext_fixed
  · rw [ha.fixed, hb.fixed]
  · rw [ha.timeInForce, hb.timeInForce, same.timeInForce]
  · rw [ha.limitPrice, hb.limitPrice, same.limitPrice]
  · rw [ha.stopPrice, hb.stopPrice, same.stopPrice]
  · apply Payload.ext_get?
    intro key
    rw [ha.extra, hb.extra, same.extra]

end Order

end OrderDesk
