/-!
# Decimal numbers

A `Decimal` is `± mantissa / 10 ^ scale` with a mantissa below `2 ^ 96` and a scale of at most
`28`.  Trailing zeros are kept, so `10` and `10.00` are different decimals of the same value.
-/

namespace OrderDesk

/-- A decimal number with its number of fractional digits; the mantissa is below `2 ^ 96`. -/
structure Decimal where
  negative : Bool
  mantissa : Nat
  scale : Nat
  mantissa_lt : mantissa < 0x1000000000000000000000000
  scale_le : scale ≤ 28
deriving DecidableEq, Repr

namespace Decimal

theorem ext {a b : Decimal} (hn : a.negative = b.negative) (hm : a.mantissa = b.mantissa)
    (hs : a.scale = b.scale) :
  a = b
  := by
  cases a
  cases b
  simp_all

/-- The decimal with the given parts, if they are within bounds. -/
def of? (negative : Bool) (mantissa scale : Nat) : Option Decimal :=
  if h : mantissa < 0x1000000000000000000000000 ∧ scale ≤ 28 then
    some ⟨negative, mantissa, scale, h.1, h.2⟩
  else none

/-- Zero without fractional digits. -/
def zero : Decimal := ⟨false, 0, 0, by decide, by decide⟩

instance : Inhabited Decimal := ⟨zero⟩

/-- The decimal with the given parts, never negative when it is zero. -/
def ofRead? (negative : Bool) (mantissa scale : Nat) : Option Decimal :=
  of? (negative && mantissa != 0) mantissa scale

/-- The decimal of an integer, if it is within bounds. -/
def ofInt? (n : Int) : Option Decimal := ofRead? (decide (n < 0)) n.natAbs 0

/-- The opposite decimal; the opposite of zero carries a sign. -/
def neg (d : Decimal) : Decimal := { d with negative := !d.negative }

/-- The mantissa with its sign. -/
def signedMantissa (d : Decimal) : Int := if d.negative then -(d.mantissa : Int) else d.mantissa

/-- Whether two decimals have the same value, whatever their scales. -/
def SameValue (a b : Decimal) : Prop :=
  a.signedMantissa * Nat.pow 10 b.scale = b.signedMantissa * Nat.pow 10 a.scale

instance (a b : Decimal) : Decidable (SameValue a b) := by
  unfold SameValue
  infer_instance

/-- Whether a decimal is above zero. -/
def isPositive (d : Decimal) : Bool := !d.negative && d.mantissa != 0

end Decimal

end OrderDesk
