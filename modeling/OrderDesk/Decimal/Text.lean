import OrderDesk.Decimal.Basic
import OrderDesk.Number.Layout

/-!
# The text of decimals

`Decimal.text` writes every digit a decimal has, so that reading the text gives the decimal
back.  `Decimal.read?` accepts more: blanks between digits marked by `_`, a missing whole or
fractional part, more digits than fit, which are rounded off, and a power of ten.  A half is
always rounded away from zero.
-/

namespace OrderDesk

namespace Decimal

/-- The text of a decimal. -/
def chars (d : Decimal) : List Char :=
  let digits := Nat.toDigits 10 d.mantissa
  let padded := List.replicate (d.scale + 1 - digits.length) '0' ++ digits
  let whole := padded.take (padded.length - d.scale)
  let fraction := padded.drop (padded.length - d.scale)
  (if d.negative then ['-'] else []) ++ whole ++
    (if fraction.isEmpty then [] else '.' :: fraction)

/-- The text of a decimal as a string. -/
def text (d : Decimal) : String := String.ofList d.chars

/-- The value of a digit. -/
def digitValue (c : Char) : Nat := c.toNat - '0'.toNat

/-- Whether a mantissa had outgrown a 64-bit word before its last digit was added: the digits
before that one reach the tenth part of a word less a margin of `255`. -/
def outgrowsWord (mantissa : Nat) : Bool := 1844674407370955161 - 255 ≤ mantissa / 10

/-- Whether the digits that follow a full mantissa round it up: the first of them alone decides,
a half going up.  If `_` comes first, it counts as a digit that does not round up, or is skipped
once the mantissa has outgrown a word. -/
def roundsUp (mantissa : Nat) (rest : List Char) : Bool :=
  let rest := if outgrowsWord mantissa then rest.dropWhile (· = '_') else rest
  rest.head?.any fun c => c.isDigit && decide (5 ≤ digitValue c)

/-- The mantissa and scale once no further digit fits, rounded by what follows.  A mantissa that
rounding makes too large gives up one fractional digit, if it has one.  What follows must still
be digits or `_`. -/
def roundOff (mantissa scale : Nat) (rest : List Char) : Option (Nat × Nat) :=
  if rest.all fun c => c.isDigit || c = '_' then
    if ¬roundsUp mantissa rest then some (mantissa, scale)
    else if mantissa + 1 < 0x1000000000000000000000000 then some (mantissa + 1, scale)
    else if scale = 0 then none
    else some ((mantissa + 5) / 10, scale - 1)
  else none

/-- The mantissa and scale of a fractional part, given those of what precedes it and whether
that has a digit. -/
def readFraction (mantissa scale : Nat) (seen : Bool) : List Char → Option (Nat × Nat)
  | [] => if seen then some (mantissa, scale) else none
  | c :: rest =>
    if 28 ≤ scale then roundOff mantissa scale (c :: rest)
    else if c.isDigit then
      if mantissa * 10 + digitValue c < 0x1000000000000000000000000 then
        readFraction (mantissa * 10 + digitValue c) (scale + 1) true rest
      else roundOff mantissa scale (c :: rest)
    else if c = '_' ∧ seen then readFraction mantissa scale seen rest
    else none

/-- The mantissa and scale of an unsigned decimal, given the mantissa of what precedes it and
whether that has a digit. -/
def readWhole (mantissa : Nat) (seen : Bool) : List Char → Option (Nat × Nat)
  | [] => if seen then some (mantissa, 0) else none
  | c :: rest =>
    if c.isDigit then
      if mantissa * 10 + digitValue c < 0x1000000000000000000000000 then
        readWhole (mantissa * 10 + digitValue c) true rest
      else none
    else if c = '.' then readFraction mantissa 0 seen rest
    else if c = '_' ∧ seen then readWhole mantissa seen rest
    else none

/-- The decimal a text without a power of ten stands for. -/
def readPlain? (cs : List Char) : Option Decimal :=
  let (negative, body) := match cs with
    | '-' :: rest => (true, rest)
    | '+' :: rest => (false, rest)
    | _ => (false, cs)
  readWhole 0 false body >>= fun p => ofRead? negative p.1 p.2

/-- The natural number below `2 ^ 32` that a text of digits stands for, an initial `+` aside. -/
def readPower? (cs : List Char) : Option Nat :=
  let digits := match cs with
    | '+' :: rest => rest
    | _ => cs
  if digits.isEmpty ∨ digits.any (fun c => !c.isDigit) then none
  else
    let n := Nat.ofDigitChars 10 digits 0
    if n < 0x100000000 then some n else none

/-- A decimal times a power of ten.  A power below zero moves the point, and what would come
after the last fractional digit is rounded off; the sign stays even if nothing else is left.  A
power up to the scale moves the point too; a greater one leaves no fractional digits. -/
def shift? (d : Decimal) (cs : List Char) : Option Decimal :=
  match cs with
  | '-' :: rest => do
    let power ← readPower? rest
    let scale := d.scale + power
    if power ≤ 28 then
      of? d.negative (roundHalfUp d.mantissa (Nat.pow 10 (scale - 28))) (min scale 28)
    else none
  | _ => do
    let power ← readPower? cs
    if power ≤ d.scale then of? d.negative d.mantissa (d.scale - power)
    else if power ≤ 28 then of? d.negative (d.mantissa * Nat.pow 10 (power - d.scale)) 0
    else none

/-- The decimal that a text with a power of ten stands for. -/
def readPowered? (cs : List Char) : Option Decimal :=
  match cs.span fun c => c != 'e' && c != 'E' with
  | (base, _ :: power) => readPlain? base >>= fun d => d.shift? power
  | _ => none

/-- The decimal that a text stands for. -/
def read? (s : String) : Option Decimal :=
  (readPlain? s.toList).or (readPowered? s.toList)

/-- The decimal that a double stands for by its plain digits. -/
def ofBinary64? (x : Binary64) : Option Decimal := readPlain? (NumberLayout.message.chars x)

end Decimal

end OrderDesk
