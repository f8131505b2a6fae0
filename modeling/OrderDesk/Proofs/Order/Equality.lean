import Mathlib.Algebra.Order.Ring.Int
import OrderDesk.Proofs.Decimal.Text

/-!
# Equal orders

Two orders are equal if they say the same, however their numbers are written: `10` and `10.00` are
the same quantity, and `0.0` and `-0.0` the same value of an extra.  Equal decimals are the same if
they have as many digits behind the point and the same sign, which only zero leaves open.
-/

namespace OrderDesk

namespace Decimal

variable {a b : Decimal}

/-- How a decimal of a given value is written: its sign and how many digits it has behind its
point. -/
def spelling (d : Decimal) : Bool × Nat := (d.negative, d.scale)

/-- Decimals of the same value that are written alike are the same. -/
theorem SameValue.eq_iff (h : SameValue a b) :
  a = b ↔ a.spelling = b.spelling
  := by
  constructor
  · rintro rfl
    rfl
  · intro heq
    obtain ⟨hnegative, hscale⟩ := Prod.mk.inj heq
    have power : (Nat.pow 10 b.scale : Int) ≠ 0 := by
      exact_mod_cast (Nat.pow_pos (by decide : 0 < 10)).ne'
    have hsigned : a.signedMantissa = b.signedMantissa := by
      rw [SameValue, hscale] at h
      exact Int.eq_of_mul_eq_mul_right power h
    apply Decimal.ext hnegative _ hscale
    rw [signedMantissa, signedMantissa, hnegative] at hsigned
    split at hsigned
    · exact Int.ofNat.inj (Int.neg_inj.1 hsigned)
    · exact Int.ofNat.inj hsigned

theorem isPositive_iff (d : Decimal) :
  d.isPositive = true ↔ 0 < d.signedMantissa
  := by
  rw [isPositive, signedMantissa]
  cases d.negative with
  | true => simp
  | false => simp [Nat.pos_iff_ne_zero]

theorem SameValue.isPositive_eq (h : SameValue a b) :
  a.isPositive = b.isPositive
  := by
  have power (n : Nat) : (0 : Int) < Nat.pow 10 n := by
    exact_mod_cast Nat.pow_pos (by decide : 0 < 10)
  rw [Bool.eq_iff_iff, isPositive_iff, isPositive_iff]
  rw [← mul_pos_iff_of_pos_right (power b.scale), h, mul_pos_iff_of_pos_right (power a.scale)]

theorem signedMantissa_neg (d : Decimal) :
  d.neg.signedMantissa = -d.signedMantissa
  := by
  rw [signedMantissa, signedMantissa, neg]
  cases d.negative with
  | true => simp
  | false => simp

theorem SameValue.neg (h : SameValue a b) :
  SameValue a.neg b.neg
  := by
  rw [SameValue, signedMantissa_neg, signedMantissa_neg, Int.neg_mul, Int.neg_mul]
  exact congrArg Neg.neg h

end Decimal

/-! ### JSON trees -/

/-- Two numbers are equal: the same integer, or doubles of the same value. -/
def JsonNumber.Equal : JsonNumber → JsonNumber → Prop
  | .int m, .int n => m = n
  | .double x, .double y => x.le y = true ∧ y.le x = true
  | _, _ => False

namespace Json

mutual

/-- Two trees are equal: they have the same shape, and equal numbers in the same places. -/
def Equal : Json → Json → Prop
  | .null, .null => True
  | .bool a, .bool b => a = b
  | .num m, .num n => m.Equal n
  | .str s, .str s' => s = s'
  | .arr items, .arr items' => ItemsEqual items items'
  | .obj fields, .obj fields' => FieldsEqual fields fields'
  | _, _ => False

/-- Two lists of trees are equal. -/
def ItemsEqual : List Json → List Json → Prop
  | [], [] => True
  | x :: xs, y :: ys => x.Equal y ∧ ItemsEqual xs ys
  | _, _ => False

/-- Two lists of named trees are equal: the names are the same, and the trees are equal. -/
def FieldsEqual : List (String × Json) → List (String × Json) → Prop
  | [], [] => True
  | (key, x) :: fs, (key', y) :: gs => key = key' ∧ x.Equal y ∧ FieldsEqual fs gs
  | _, _ => False

end

/-- Equal objects have values under the same names. -/
theorem FieldsEqual.isSome_get? {fs gs : List (String × Json)} (h : FieldsEqual fs gs)
    (key : String) :
  (Fields.get? fs key).isSome = (Fields.get? gs key).isSome
  := by
  induction fs generalizing gs with
  | nil =>
    cases gs with
    | nil => rfl
    | cons g gs => exact h.elim
  | cons f fs ih =>
    cases gs with
    | nil => exact h.elim
    | cons g gs =>
      obtain ⟨name, x⟩ := f
      obtain ⟨name', y⟩ := g
      obtain ⟨rfl, -, hrest⟩ := h
      rw [Fields.get?, Fields.get?]
      split
      · rfl
      · exact ih hrest

end Json

/-- Two objects are equal. -/
def Payload.Equal (p q : Payload) : Prop := Json.FieldsEqual p.fields q.fields

theorem Payload.Equal.contains_eq {p q : Payload} (h : p.Equal q) (key : String) :
  p.contains key = q.contains key
  := Json.FieldsEqual.isSome_get? h key

namespace Order

variable {a b : Order}

/-- Two orders are equal: their decimals have the same values, their extras are equal, and all else
is the same. -/
structure Equal (a b : Order) : Prop where
  symbol : a.symbol = b.symbol
  side : a.side = b.side
  quantity : Decimal.SameValue a.quantity b.quantity
  orderType : a.orderType = b.orderType
  timeInForce : a.timeInForce = b.timeInForce
  limitPrice : Option.Rel Decimal.SameValue a.limitPrice b.limitPrice
  stopPrice : Option.Rel Decimal.SameValue a.stopPrice b.stopPrice
  extras : a.extras.Equal b.extras

/-- Of equal orders, both are complete or neither is. -/
theorem Equal.isComplete_eq (h : a.Equal b) :
  a.isComplete = b.isComplete
  := by
  have isSome {x y : Option Decimal} (h : Option.Rel Decimal.SameValue x y) :
      x.isSome = y.isSome := by
    cases h with
    | none => rfl
    | some => rfl
  rw [isComplete, isComplete, h.quantity.isPositive_eq, h.orderType, isSome h.limitPrice,
    isSome h.stopPrice]

end Order

end OrderDesk
