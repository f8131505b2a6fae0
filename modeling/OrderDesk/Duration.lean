import OrderDesk.Number.Binary64

/-!
# Spans of time

A `Duration` is a whole number of nanoseconds whose seconds fit into 64 bits.  Conversions to
and from fractional seconds go through double precision: a number of seconds becomes the
nearest number of nanoseconds, a half going to the even one.
-/

namespace OrderDesk

/-- A span of time in nanoseconds. -/
structure Duration where
  nanoseconds : Nat
  bounded : nanoseconds < 0x10000000000000000 * 1000000000
deriving DecidableEq, Repr

namespace Duration

theorem ext {a b : Duration} (h : a.nanoseconds = b.nanoseconds) :
  a = b
  := by
  cases a
  cases b
  simp_all

/-- No time. -/
def zero : Duration := ⟨0, by decide⟩

instance : Inhabited Duration := ⟨zero⟩

/-- The longest span. -/
def longest : Duration := ⟨0x10000000000000000 * 1000000000 - 1, by decide⟩

/-- The span of that many nanoseconds, if it is not too long. -/
def ofNanoseconds? (n : Nat) : Option Duration :=
  if h : n < 0x10000000000000000 * 1000000000 then some ⟨n, h⟩ else none

/-- The span of whole seconds and further nanoseconds, if it is not too long. -/
def ofParts? (seconds nanoseconds : Nat) : Option Duration :=
  ofNanoseconds? (seconds * 1000000000 + nanoseconds)

/-- The whole seconds. -/
def seconds (d : Duration) : Nat := d.nanoseconds / 1000000000

/-- The nanoseconds past the whole seconds. -/
def fraction (d : Duration) : Nat := d.nanoseconds % 1000000000

/-- The whole milliseconds that cover the span. -/
def coveringMilliseconds (d : Duration) : Nat := (d.nanoseconds + 999999) / 1000000

/-- Whether the span is empty. -/
def isZero (d : Duration) : Bool := d.nanoseconds == 0

/-- The span in seconds: the whole seconds and the fraction are rounded one by one. -/
def toSeconds (d : Duration) : Binary64 :=
  .ofNat d.seconds + .ofNat d.fraction / .ofNat 1000000000

/-- The span of a number of seconds, to the nearest nanosecond.  Negative numbers, numbers
from `2 ^ 64` on and what is not a number are no span. -/
def ofSeconds? : Binary64 → Option Duration
  | .finite negative m =>
    if negative ∧ m.rank ≠ 0 then none
    else ofNanoseconds? (roundHalfEven (m.units * 1000000000) Magnitude.unitsInOne)
  | _ => none

/-- The digits of `n / 10 ^ places` after the point, without trailing zeros. -/
def fractionDigits (n places : Nat) : List Char :=
  let digits := Nat.toDigits 10 n
  let padded := List.replicate (places - digits.length) '0' ++ digits
  (padded.reverse.dropWhile (· = '0')).reverse

/-- A number of units, `whole` and `rest / 10 ^ places`, with the name of the unit. -/
def inUnit (whole rest places : Nat) (unit : List Char) : List Char :=
  let fraction := fractionDigits rest places
  Nat.toDigits 10 whole ++ (if fraction.isEmpty then [] else '.' :: fraction) ++ unit

/-- The text of a span: the largest unit with a whole part and the exact fraction. -/
def text (d : Duration) : String :=
  let n := d.nanoseconds
  String.ofList <|
    if 1000000000 ≤ n then inUnit (n / 1000000000) (n % 1000000000) 9 ['s']
    else if 1000000 ≤ n then inUnit (n / 1000000) (n % 1000000) 6 ['m', 's']
    else if 1000 ≤ n then inUnit (n / 1000) (n % 1000) 3 ['µ', 's']
    else inUnit n 0 0 ['n', 's']

end Duration

end OrderDesk
