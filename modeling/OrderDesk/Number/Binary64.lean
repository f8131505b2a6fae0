import OrderDesk.Number.Rounding

/-!
# Double precision numbers

The non-negative finite doubles, in increasing order, are numbered by their *rank*: zero has
rank `0`, the least positive double rank `1`, and so on up to the greatest finite double.
Every finite double is a whole multiple of the unit `2 ^ (-1074)`, so that sums, products and
quotients of doubles are quotients of whole numbers, and each operation is its exact result
rounded once, to the nearest double and half-way cases to the even rank.
-/

namespace OrderDesk

/-- The magnitude of a finite double, given by its rank among the non-negative ones.  From each
power of two to the next there are `0x10000000000000` doubles, which is `2 ^ 52`. -/
structure Magnitude where
  rank : Nat
  rank_lt : rank < 0x7ff0000000000000
deriving DecidableEq, Repr

namespace Magnitude

/-- The zero magnitude. -/
def zero : Magnitude := ⟨0, by decide⟩

/-- A unit is `2 ^ (-unitExponent)`, the least positive double. -/
def unitExponent : Nat := 1074

/-- The number of units in one. -/
def unitsInOne : Nat := Nat.pow 2 unitExponent

/-- The value of the double of a given rank, in units. -/
def unitsOfRank (rank : Nat) : Nat :=
  if rank < 0x10000000000000 then rank
  else (0x10000000000000 + rank % 0x10000000000000) * Nat.pow 2 (rank / 0x10000000000000 - 1)

/-- The value of a magnitude, in units. -/
def units (x : Magnitude) : Nat := unitsOfRank x.rank

end Magnitude

/-- A double precision number. -/
inductive Binary64 where
  | nan
  | infinite (negative : Bool)
  | finite (negative : Bool) (magnitude : Magnitude)
deriving DecidableEq, Repr

namespace Binary64

/-- Positive zero. -/
def zero : Binary64 := .finite false .zero

instance : Inhabited Binary64 := ⟨zero⟩

/-- The exponent of the gap between neighbouring doubles around `a / d` units: the least `p`
for which the value is below `2 ^ (p + 53)` units. -/
def gapExponent (a d : Nat) : Nat :=
  let p := a.log2 - (d.log2 + 52)
  if 0 < p ∧ a < d * Nat.pow 2 (p + 52) then p - 1 else p

/-- The rank of the double nearest to `a / d` units; ranks from `0x7ff0000000000000` on are
past the greatest finite double. -/
def nearestRank (a d : Nat) : Nat :=
  gapExponent a d * 0x10000000000000 + roundHalfEven a (d * Nat.pow 2 (gapExponent a d))

/-- The double nearest to `a / d` units with the given sign. -/
def ofUnits (negative : Bool) (a d : Nat) : Binary64 :=
  if h : nearestRank a d < 0x7ff0000000000000 then .finite negative ⟨nearestRank a d, h⟩
  else .infinite negative

/-- The double nearest to `a / d` with the given sign. -/
def ofRatio (negative : Bool) (a d : Nat) : Binary64 :=
  ofUnits negative (a * Magnitude.unitsInOne) d

/-- The double nearest to a natural number. -/
def ofNat (n : Nat) : Binary64 := ofRatio false n 1

/-- The double nearest to an integer. -/
def ofInt (n : Int) : Binary64 := ofRatio (decide (n < 0)) n.natAbs 1

instance (n : Nat) : OfNat Binary64 n := ⟨ofNat n⟩

/-- The double nearest to the decimal number `coefficient * 10 ^ exponent`.  Exponents too
far out to matter are settled by the number of digits alone. -/
def ofDecimal (negative : Bool) (coefficient : Nat) (exponent : Int) : Binary64 :=
  if coefficient = 0 then .finite negative .zero
  else
    let top := exponent + (Nat.toDigits 10 coefficient).length
    if top > 400 then .infinite negative
    else if top < -400 then .finite negative .zero
    else ofRatio negative (coefficient * Nat.pow 10 exponent.toNat) (Nat.pow 10 (-exponent).toNat)

/-- Whether a double is neither infinite nor not a number. -/
def isFinite : Binary64 → Bool
  | .finite _ _ => true
  | _ => false

/-- The position of a double on the line of ranks, infinities beyond the finite ones. -/
def position? : Binary64 → Option Int
  | .nan => none
  | .infinite negative => some (if negative then -0x7ff0000000000000 else 0x7ff0000000000000)
  | .finite negative m => some (if negative then -(m.rank : Int) else m.rank)

/-- Strictly smaller; never holds when either side is not a number. -/
def lt (x y : Binary64) : Bool :=
  match x.position?, y.position? with
  | some p, some q => decide (p < q)
  | _, _ => false

/-- Smaller or equal in value; never holds when either side is not a number. -/
def le (x y : Binary64) : Bool :=
  match x.position?, y.position? with
  | some p, some q => decide (p ≤ q)
  | _, _ => false

/-- The smaller of two doubles; an operand that is not a number gives way to the other. -/
def minimum (x y : Binary64) : Binary64 :=
  if x = .nan then y else if y.lt x then y else x

/-- The greater of two doubles; an operand that is not a number gives way to the other. -/
def maximum (x y : Binary64) : Binary64 :=
  if x = .nan then y else if x.lt y then y else x

/-- The opposite of a double. -/
def neg : Binary64 → Binary64
  | .nan => .nan
  | .infinite negative => .infinite (!negative)
  | .finite negative m => .finite (!negative) m

instance : Neg Binary64 := ⟨neg⟩

/-- The exact value of a signed magnitude, in units. -/
def signedUnits (negative : Bool) (m : Magnitude) : Int :=
  if negative then -(m.units : Int) else m.units

/-- The sum, rounded; a sum that is exactly zero is negative only if both operands are. -/
def add : Binary64 → Binary64 → Binary64
  | .nan, _ => .nan
  | _, .nan => .nan
  | .infinite s, .infinite t => if s = t then .infinite s else .nan
  | .infinite s, .finite _ _ => .infinite s
  | .finite _ _, .infinite t => .infinite t
  | .finite s m, .finite t n =>
    let sum := signedUnits s m + signedUnits t n
    if sum = 0 then .finite (s && t) .zero
    else ofUnits (decide (sum < 0)) sum.natAbs 1

instance : Add Binary64 := ⟨add⟩

instance : Sub Binary64 := ⟨fun x y => x + -y⟩

/-- The product, rounded. -/
def mul : Binary64 → Binary64 → Binary64
  | .nan, _ => .nan
  | _, .nan => .nan
  | .infinite s, .infinite t => .infinite (s != t)
  | .infinite s, .finite t n => if n.rank = 0 then .nan else .infinite (s != t)
  | .finite s m, .infinite t => if m.rank = 0 then .nan else .infinite (s != t)
  | .finite s m, .finite t n => ofUnits (s != t) (m.units * n.units) Magnitude.unitsInOne

instance : Mul Binary64 := ⟨mul⟩

/-- The quotient, rounded. -/
def div : Binary64 → Binary64 → Binary64
  | .nan, _ => .nan
  | _, .nan => .nan
  | .infinite _, .infinite _ => .nan
  | .infinite s, .finite t _ => .infinite (s != t)
  | .finite s _, .infinite t => .finite (s != t) .zero
  | .finite s m, .finite t n =>
    if n.rank = 0 then
      if m.rank = 0 then .nan else .infinite (s != t)
    else ofUnits (s != t) (m.units * Magnitude.unitsInOne) n.units

instance : Div Binary64 := ⟨div⟩

/-- `acc * x ^ n` by repeated squaring over the lowest `width` binary digits of `n`, every
product rounded. -/
def powWithin : Nat → Binary64 → Binary64 → Nat → Binary64
  | 0, acc, _, _ => acc
  | width + 1, acc, x, n =>
    powWithin width (if n % 2 = 1 then acc * x else acc) (x * x) (n / 2)

/-- The `n`-th power by repeated squaring, every product rounded. -/
def pow (x : Binary64) (n : Nat) : Binary64 :=
  powWithin (n.log2 + 1) 1 x n

instance : HPow Binary64 Nat Binary64 := ⟨pow⟩

end Binary64

end OrderDesk
