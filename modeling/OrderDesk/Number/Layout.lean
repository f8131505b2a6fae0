import OrderDesk.Number.Shortest

/-!
# Writing doubles

A `NumberLayout` says how the shortest digits of a double are chosen and laid out: where a
half goes, which powers of ten are written positionally, and how a whole number is marked.  Two
layouts are in use: that of
numbers inside JSON text and that of numbers inside messages.
-/

namespace OrderDesk

/-- The choices in writing the digits of a double. -/
structure NumberLayout where
  /-- Where a double half-way between the two nearest numbers of its digits goes. -/
  half : HalfWay
  /-- Whether a number whose first digit has this power of ten is written positionally. -/
  positional : Int → Bool
  /-- The mark after a whole number written positionally. -/
  wholeMark : List Char

namespace NumberLayout

/-- Numbers in JSON text: a half goes to the even digit, plain digits while the power of ten of
the first digit lies between `-5` and `15`, whole numbers marked by `.0`. -/
def json : NumberLayout := ⟨.toEven, fun e => decide (-5 ≤ e ∧ e ≤ 15), ['.', '0']⟩

/-- Numbers in messages: a half goes up, always plain digits, whole numbers unmarked. -/
def message : NumberLayout := ⟨.up, fun _ => true, []⟩

/-- Digits with a decimal point, the first digit standing for the given power of ten. -/
def plain (layout : NumberLayout) (digits : List Char) (power : Int) : List Char :=
  if power < 0 then
    '0' :: '.' :: (List.replicate (-power - 1).toNat '0' ++ digits)
  else
    let whole := power.toNat + 1
    if digits.length ≤ whole then
      digits ++ List.replicate (whole - digits.length) '0' ++ layout.wholeMark
    else digits.take whole ++ '.' :: digits.drop whole

/-- Digits with one before the point and an explicit power of ten. -/
def powered (digits : List Char) (power : Int) : List Char :=
  let fraction := match digits.drop 1 with
    | [] => []
    | rest => '.' :: rest
  let sign := if power < 0 then '-' else '+'
  digits.take 1 ++ fraction ++ 'e' :: sign :: Nat.toDigits 10 power.natAbs

/-- The text of a magnitude. -/
def magnitude (layout : NumberLayout) (x : Magnitude) : List Char :=
  let d := x.shortest layout.half
  if layout.positional d.leadingExponent then layout.plain d.digits d.leadingExponent
  else powered d.digits d.leadingExponent

/-- The text of a double. -/
def chars (layout : NumberLayout) : Binary64 → List Char
  | .nan => ['N', 'a', 'N']
  | .infinite negative => if negative then ['-', 'i', 'n', 'f'] else ['i', 'n', 'f']
  | .finite negative m => if negative then '-' :: layout.magnitude m else layout.magnitude m

/-- The text of a double as a string. -/
def text (layout : NumberLayout) (x : Binary64) : String := String.ofList (layout.chars x)

end NumberLayout

end OrderDesk
