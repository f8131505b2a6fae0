import OrderDesk.Number.Binary64

/-!
# The fewest digits that identify a double

The reals that round to a double form an interval around it, whose ends belong to it exactly
when the double's rank is even.  `Magnitude.shortest` is the decimal number with the fewest
digits in that interval and, of those with that many digits, the one nearest to the double.
Two of them can be equally near; which one is taken is up to the writer.
-/

namespace OrderDesk

/-- The decimal number `coefficient * 10 ^ exponent`. -/
structure Scientific where
  coefficient : Nat
  exponent : Int
deriving DecidableEq, Repr

namespace Scientific

/-- Numerator of the value as a quotient of whole numbers. -/
def numerator (d : Scientific) : Nat := d.coefficient * Nat.pow 10 d.exponent.toNat

/-- Denominator of the value as a quotient of whole numbers. -/
def denominator (d : Scientific) : Nat := Nat.pow 10 (-d.exponent).toNat

/-- The decimal digits of the coefficient. -/
def digits (d : Scientific) : List Char := Nat.toDigits 10 d.coefficient

/-- The power of ten of the first digit. -/
def leadingExponent (d : Scientific) : Int := d.exponent + d.digits.length - 1

end Scientific

namespace Magnitude

/-- Whether a decimal number lies among the reals that round to the double. -/
def Identifies (x : Magnitude) (d : Scientific) : Prop :=
  let low := (unitsOfRank (x.rank - 1) + x.units) * d.denominator
  let high := (x.units + unitsOfRank (x.rank + 1)) * d.denominator
  let value := d.numerator * (2 * unitsInOne)
  if x.rank % 2 = 0 then low ≤ value ∧ value ≤ high else low < value ∧ value < high

instance (x : Magnitude) (d : Scientific) : Decidable (x.Identifies d) := by
  unfold Identifies
  infer_instance

/-- The least `k` with the double below `10 ^ k`. -/
def decimalWidth (x : Magnitude) : Int :=
  let margin : Nat := 330
  ((Nat.toDigits 10 (x.units * Nat.pow 10 margin / unitsInOne)).length : Int) - margin

/-- The two neighbours of the double among the decimal numbers with `count` digits, the nearer
one first; a half goes where `half` says. -/
def neighbours (x : Magnitude) (half : HalfWay) (count : Nat) : List Scientific :=
  let exponent := x.decimalWidth - count
  let a := x.units * Nat.pow 10 (-exponent).toNat
  let d := unitsInOne * Nat.pow 10 exponent.toNat
  let below : Scientific := ⟨a / d, exponent⟩
  let above : Scientific :=
    if a / d + 1 = Nat.pow 10 count then ⟨1, x.decimalWidth⟩ else ⟨a / d + 1, exponent⟩
  if 2 * (a % d) < d ∨ (2 * (a % d) = d ∧ half.keeps (a / d)) then [below, above]
  else [above, below]

/-- The exact decimal value of a double. -/
def exactDecimal (x : Magnitude) : Scientific := ⟨x.units * Nat.pow 5 unitExponent, -unitExponent⟩

/-- The decimal number with the fewest digits that identifies the double, the nearest one of
those with that many digits. -/
def shortest (x : Magnitude) (half : HalfWay) : Scientific :=
  if x.rank = 0 then ⟨0, 0⟩
  else
    let candidates := (List.range 17).flatMap fun n => x.neighbours half (n + 1)
    (candidates.find? fun d => decide (x.Identifies d)).getD x.exactDecimal

end Magnitude

end OrderDesk
