/-!
# Rounding a quotient

A quotient `a / d` that lies half-way between two natural numbers has two nearest ones.
`roundHalfEven a d` is the nearest natural number, the even one of the two in that case, and
`roundHalfUp a d` the greater one.  Where both rules are in use a `HalfWay` names one of them.
-/

namespace OrderDesk

/-- Which of its two neighbours a number half-way between them goes to. -/
inductive HalfWay where
  | toEven
  | up
deriving DecidableEq, Repr

/-- Whether the number half-way between `n` and its successor goes to `n`. -/
def HalfWay.keeps : HalfWay → Nat → Bool
  | .toEven, n => n % 2 == 0
  | .up, _ => false

/-- The natural number nearest to `a / d`, a half going to the even neighbour. -/
def roundHalfEven (a d : Nat) : Nat :=
  if 2 * (a % d) < d then a / d
  else if d < 2 * (a % d) then a / d + 1
  else a / d + a / d % 2

/-- The natural number nearest to `a / d`, a half going up. -/
def roundHalfUp (a d : Nat) : Nat := (2 * a + d) / (2 * d)

end OrderDesk
