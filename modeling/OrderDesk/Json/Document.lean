import OrderDesk.Json.Basic

/-!
# Reading JSON text

`Document.read?` reads a JSON text strictly: one value with blanks around it and nothing else.
A `Document` still tells apart what a JSON tree does not: the literal of a number and the
repeated or disordered names of an object.  Two faults are kept in it until the place where
they stand is asked for its meaning: a number too large for a double, and a text with an
unpaired surrogate.  `Document.toValue?` is that meaning.

Values may be nested to any depth, and a literal that is not an integer is rounded once, to the
nearest double.  The JSON parser that this reader stands for does neither: it reads no value that is
nested more than 127 deep, and it rounds first the digits of a literal and then their product with
the power of ten, so that it may miss the nearest double by a little (`110.00000000000001` becomes
`110.0`).
-/

namespace OrderDesk

/-- A number literal: `± coefficient * 10 ^ exponent`, and whether it was written without a
fraction and an exponent. -/
structure NumberLiteral where
  negative : Bool
  coefficient : Nat
  exponent : Int
  integral : Bool
deriving DecidableEq, Repr

namespace NumberLiteral

/-- The double nearest to a literal, if it is not too large. -/
def toDouble? (l : NumberLiteral) : Option Binary64 :=
  let x := Binary64.ofDecimal l.negative l.coefficient l.exponent
  if x.isFinite then some x else none

/-- The number a literal stands for: an integer if it is written as one and fits into 64 bits,
signed or unsigned, and otherwise a double.  Negative zero is a double. -/
def toNumber? (l : NumberLiteral) : Option JsonNumber :=
  let n := l.coefficient
  if l.integral ∧ ¬l.negative ∧ n < 0x10000000000000000 then some (.int n)
  else if l.integral ∧ l.negative ∧ 0 < n ∧ n ≤ 0x8000000000000000 then some (.int (-n))
  else l.toDouble?.map .double

end NumberLiteral

/-- A JSON text as written.  A text that contains an unpaired surrogate has no content. -/
inductive Document where
  | null
  | bool (value : Bool)
  | number (literal : NumberLiteral)
  | text (content : Option String)
  | array (items : List Document)
  | object (members : List (Option String × Document))

namespace Document

/-- Whether a character is blank between JSON tokens. -/
def isBlank (c : Char) : Bool := c = ' ' || c = '\n' || c = '\t' || c = '\r'

/-- The value of a hexadecimal digit. -/
def hexDigit? (c : Char) : Option Nat :=
  if '0' ≤ c ∧ c ≤ '9' then some (c.toNat - '0'.toNat)
  else if 'a' ≤ c ∧ c ≤ 'f' then some (c.toNat - 'a'.toNat + 10)
  else if 'A' ≤ c ∧ c ≤ 'F' then some (c.toNat - 'A'.toNat + 10)
  else none

/-- The number written by four hexadecimal digits. -/
def hexQuad? (a b c d : Char) : Option Nat := do
  let a ← hexDigit? a
  let b ← hexDigit? b
  let c ← hexDigit? c
  let d ← hexDigit? d
  return ((a * 16 + b) * 16 + c) * 16 + d

/-- The character a one-letter escape stands for. -/
def escaped? (c : Char) : Option Nat :=
  if c = '"' ∨ c = '\\' ∨ c = '/' then some c.toNat
  else if c = 'b' then some 8
  else if c = 'f' then some 12
  else if c = 'n' then some 10
  else if c = 'r' then some 13
  else if c = 't' then some 9
  else none

/-- The codes of a quoted text up to its closing quote, and what follows the quote. -/
def textCodes : List Char → Option (List Nat × List Char)
  | [] => none
  | '"' :: rest => some ([], rest)
  | '\\' :: 'u' :: a :: b :: c :: d :: rest => do
    let code ← hexQuad? a b c d
    let (codes, rest) ← textCodes rest
    return (code :: codes, rest)
  | '\\' :: c :: rest => do
    let code ← escaped? c
    let (codes, rest) ← textCodes rest
    return (code :: codes, rest)
  | c :: rest =>
    if c.toNat < 32 then none
    else do
      let (codes, rest) ← textCodes rest
      return (c.toNat :: codes, rest)

/-- Whether a code is the first half of a surrogate pair. -/
def isHighSurrogate (code : Nat) : Bool := decide (0xD800 ≤ code ∧ code < 0xDC00)

/-- Whether a code is the second half of a surrogate pair. -/
def isLowSurrogate (code : Nat) : Bool := decide (0xDC00 ≤ code ∧ code < 0xE000)

/-- The characters that codes stand for, unless a surrogate is unpaired. -/
def joinSurrogates : List Nat → Option (List Char)
  | [] => some []
  | code :: rest =>
    if isHighSurrogate code then
      match rest with
      | [] => none
      | low :: rest =>
        if isLowSurrogate low then
          (joinSurrogates rest).map
            (Char.ofNat (0x10000 + (code - 0xD800) * 0x400 + (low - 0xDC00)) :: ·)
        else none
    else if isLowSurrogate code then none
    else (joinSurrogates rest).map (Char.ofNat code :: ·)

/-- A quoted text after its opening quote. -/
def quoted (cs : List Char) : Option (Option String × List Char) := do
  let (codes, rest) ← textCodes cs
  return ((joinSurrogates codes).map String.ofList, rest)

/-- The longest run of digits at the front, and the rest. -/
def digitRun (cs : List Char) : List Char × List Char := cs.span Char.isDigit

/-- The fraction at the front of a text, if any: its digits and the rest. -/
def fraction (cs : List Char) : Option (List Char × List Char) :=
  match cs with
  | '.' :: rest =>
    let (digits, rest) := digitRun rest
    if digits.isEmpty then none else some (digits, rest)
  | _ => some ([], cs)

/-- The exponent after its letter: its value and the rest. -/
def signedDigits (cs : List Char) : Option (Int × List Char) :=
  let (negative, cs) := match cs with
    | '+' :: rest => (false, rest)
    | '-' :: rest => (true, rest)
    | _ => (false, cs)
  let (digits, rest) := digitRun cs
  if digits.isEmpty then none
  else
    let n : Int := Nat.ofDigitChars 10 digits 0
    some (if negative then -n else n, rest)

/-- The exponent at the front of a text, if any, and the rest. -/
def exponent (cs : List Char) : Option (Option Int × List Char) :=
  match cs with
  | 'e' :: rest => (signedDigits rest).map fun p => (some p.1, p.2)
  | 'E' :: rest => (signedDigits rest).map fun p => (some p.1, p.2)
  | _ => some (none, cs)

/-- A number literal and the rest. -/
def numberLiteral (cs : List Char) : Option (Document × List Char) := do
  let (negative, cs) := match cs with
    | '-' :: rest => (true, rest)
    | _ => (false, cs)
  let (whole, cs) := digitRun cs
  if whole.isEmpty ∨ (1 < whole.length ∧ whole.head? = some '0') then none
  let (frac, cs) ← fraction cs
  let (power, cs) ← exponent cs
  return (.number {
    negative
    coefficient := Nat.ofDigitChars 10 (whole ++ frac) 0
    exponent := power.getD 0 - frac.length
    integral := frac.isEmpty && power.isNone }, cs)

mutual

/-- A value and the rest, nested at most as deep as the first argument says. -/
def value : Nat → List Char → Option (Document × List Char)
  | 0, _ => none
  | fuel + 1, cs =>
    match cs.dropWhile isBlank with
    | 'n' :: 'u' :: 'l' :: 'l' :: rest => some (.null, rest)
    | 't' :: 'r' :: 'u' :: 'e' :: rest => some (.bool true, rest)
    | 'f' :: 'a' :: 'l' :: 's' :: 'e' :: rest => some (.bool false, rest)
    | '"' :: rest => (quoted rest).map fun p => (.text p.1, p.2)
    | '[' :: rest =>
      match rest.dropWhile isBlank with
      | ']' :: rest => some (.array [], rest)
      | rest => (items fuel rest).map fun p => (.array p.1, p.2)
    | '\x7b' :: rest =>
      match rest.dropWhile isBlank with
      | '\x7d' :: rest => some (.object [], rest)
      | rest => (members fuel rest).map fun p => (.object p.1, p.2)
    | rest => numberLiteral rest

/-- The items of an array up to its closing bracket, and the rest. -/
def items : Nat → List Char → Option (List Document × List Char)
  | 0, _ => none
  | fuel + 1, cs => do
    let (item, rest) ← value fuel cs
    match rest.dropWhile isBlank with
    | ']' :: rest => return ([item], rest)
    | ',' :: rest =>
      let (more, rest) ← items fuel rest
      return (item :: more, rest)
    | _ => none

/-- The members of an object up to its closing brace, and the rest. -/
def members : Nat → List Char → Option (List (Option String × Document) × List Char)
  | 0, _ => none
  | fuel + 1, cs => do
    match cs.dropWhile isBlank with
    | '"' :: rest =>
      let (name, rest) ← quoted rest
      match rest.dropWhile isBlank with
      | ':' :: rest =>
        let (item, rest) ← value fuel rest
        match rest.dropWhile isBlank with
        | '\x7d' :: rest => return ([(name, item)], rest)
        | ',' :: rest =>
          let (more, rest) ← members fuel rest
          return ((name, item) :: more, rest)
        | _ => none
      | _ => none
    | _ => none

end

/-- The document that a text is. -/
def ofChars? (cs : List Char) : Option Document := do
  let (document, rest) ← value (cs.length + 1) cs
  if rest.all isBlank then return document else none

/-- The document that a text is. -/
def read? (s : String) : Option Document := ofChars? s.toList

mutual

/-- The tree a document stands for; of two values under one name the last one counts. -/
def toValue? : Document → Option Value
  | .null => some .null
  | .bool b => some (.bool b)
  | .number l => l.toNumber?.map .num
  | .text content => content.map .str
  | .array items => (itemValues? items).map .arr
  | .object members => (memberValues? members).map fun fs => .obj (.ofList fs)

/-- The trees of the items of an array. -/
def itemValues? : List Document → Option (List Value)
  | [] => some []
  | x :: xs => do
    let v ← toValue? x
    let vs ← itemValues? xs
    return v :: vs

/-- The named trees of the members of an object. -/
def memberValues? : List (Option String × Document) → Option (List (String × Value))
  | [] => some []
  | (name, x) :: xs => do
    let k ← name
    let v ← toValue? x
    let vs ← memberValues? xs
    return (k, v) :: vs

end

end Document

/-- The tree that a JSON text stands for. -/
def Value.read? (s : String) : Option Value := Document.read? s >>= Document.toValue?

end OrderDesk
