/-!
# Points in time

A `Timestamp` is a date of the Gregorian calendar and a time of day, both in UTC, to the
nanosecond.  It is written as RFC 3339 prescribes, with as many fractional digits as are
needed out of none, three, six and nine.  Reading follows the same standard and tolerates
blanks, numbers without leading zeros and a blank between date and time.
-/

namespace OrderDesk

/-- A date and a time of day in UTC.  In a leap second the nanosecond goes on from `1000000000`. -/
structure Timestamp where
  year : Int
  month : Nat
  day : Nat
  secondOfDay : Nat
  nanosecond : Nat
deriving DecidableEq, Repr, Inhabited

namespace Timestamp

/-- Whether a year has a 29th of February. -/
def isLeapYear (year : Int) : Bool :=
  year % 4 == 0 && (year % 100 != 0 || year % 400 == 0)

/-- The number of days of a month. -/
def daysIn (year : Int) (month : Nat) : Nat :=
  if month = 2 then if isLeapYear year then 29 else 28
  else if month = 4 ∨ month = 6 ∨ month = 9 ∨ month = 11 then 30
  else 31

/-- The same time on the next day. -/
def nextDay (t : Timestamp) : Timestamp :=
  if t.day < daysIn t.year t.month then { t with day := t.day + 1 }
  else if t.month < 12 then { t with month := t.month + 1, day := 1 }
  else { t with year := t.year + 1, month := 1, day := 1 }

/-- The same time on the day before. -/
def previousDay (t : Timestamp) : Timestamp :=
  if 1 < t.day then { t with day := t.day - 1 }
  else if 1 < t.month then
    { t with month := t.month - 1, day := daysIn t.year (t.month - 1) }
  else { t with year := t.year - 1, month := 12, day := 31 }

/-- A local time in UTC, given by how many seconds the local clock is ahead. -/
def toUniversal (t : Timestamp) (ahead : Int) : Timestamp :=
  let second := (t.secondOfDay : Int) - ahead
  if second < 0 then previousDay { t with secondOfDay := (second + 86400).toNat }
  else if 86400 ≤ second then nextDay { t with secondOfDay := (second - 86400).toNat }
  else { t with secondOfDay := second.toNat }

/-- A number with at least `width` digits. -/
def padded (width n : Nat) : List Char :=
  let digits := Nat.toDigits 10 n
  List.replicate (width - digits.length) '0' ++ digits

/-- The text of a year; years that do not have four digits carry a sign. -/
def yearChars (year : Int) : List Char :=
  if 0 ≤ year ∧ year ≤ 9999 then padded 4 year.toNat
  else (if year < 0 then '-' else '+') :: padded 4 year.natAbs

/-- The fraction of a second in the fewest digits out of none, three, six and nine. -/
def fractionChars (nanosecond : Nat) : List Char :=
  if nanosecond = 0 then []
  else if nanosecond % 1000000 = 0 then '.' :: padded 3 (nanosecond / 1000000)
  else if nanosecond % 1000 = 0 then '.' :: padded 6 (nanosecond / 1000)
  else '.' :: padded 9 nanosecond

/-- The text of a point in time. -/
def chars (t : Timestamp) : List Char :=
  let second := t.secondOfDay % 60 + t.nanosecond / 1000000000
  yearChars t.year ++ '-' :: padded 2 t.month ++ '-' :: padded 2 t.day ++
    'T' :: padded 2 (t.secondOfDay / 3600) ++ ':' :: padded 2 (t.secondOfDay / 60 % 60) ++
    ':' :: padded 2 second ++ fractionChars (t.nanosecond % 1000000000) ++ ['Z']

/-- The text of a point in time as a string. -/
def text (t : Timestamp) : String := String.ofList t.chars

/-- Whether a character is a blank of any kind. -/
def isBlank (c : Char) : Bool :=
  let n := c.toNat
  (decide (9 ≤ n) && decide (n ≤ 13)) || (decide (0x2000 ≤ n) && decide (n ≤ 0x200a)) ||
    [0x20, 0x85, 0xa0, 0x1680, 0x2028, 0x2029, 0x202f, 0x205f, 0x3000].contains n

/-- The text without the blanks at its front. -/
def skipBlanks (cs : List Char) : List Char := cs.dropWhile isBlank

/-- A number of one to `width` digits, after blanks, and the rest. -/
def number? (width : Nat) (cs : List Char) : Option (Nat × List Char) :=
  let cs := skipBlanks cs
  let digits := (cs.take width).takeWhile Char.isDigit
  if digits.isEmpty then none
  else some (Nat.ofDigitChars 10 digits 0, cs.drop digits.length)

/-- A year, after blanks, and the rest; with a sign it may have any number of digits. -/
def year? (cs : List Char) : Option (Int × List Char) :=
  match skipBlanks cs with
  | '-' :: rest => if (rest.take 1).all Char.isDigit then signed rest (-1) else none
  | '+' :: rest => if (rest.take 1).all Char.isDigit then signed rest 1 else none
  | rest => (number? 4 rest).map fun p => ((p.1 : Int), p.2)
where
  /-- The digits after a sign. -/
  signed (cs : List Char) (sign : Int) : Option (Int × List Char) :=
    (number? cs.length cs).map fun p => (sign * p.1, p.2)

/-- The text after one given character, blanks before it aside. -/
def expect? (c : Char) (cs : List Char) : Option (List Char) :=
  match skipBlanks cs with
  | d :: rest => if d = c then some rest else none
  | [] => none

/-- The fraction of a second at the front of a text in nanoseconds, further digits dropped. -/
def nanoseconds? (cs : List Char) : Option (Nat × List Char) :=
  match cs with
  | '.' :: rest =>
    let digits := rest.takeWhile Char.isDigit
    if digits.isEmpty then none
    else
      let kept := digits.take 9
      some (Nat.ofDigitChars 10 kept 0 * Nat.pow 10 (9 - kept.length), rest.drop digits.length)
  | _ => some (0, cs)

/-- How many seconds the local clock is ahead of UTC, and the rest. -/
def offset? (cs : List Char) : Option (Int × List Char) :=
  match cs with
  | 'Z' :: rest => some (0, rest)
  | 'z' :: rest => some (0, rest)
  | '+' :: rest => shift 1 rest
  | '-' :: rest => shift (-1) rest
  | '−' :: rest => shift (-1) rest
  | u :: t :: c :: rest =>
    if u.toUpper = 'U' ∧ t.toUpper = 'T' ∧ c.toUpper = 'C' then some (0, rest) else none
  | _ => none
where
  /-- Two digits of hours and two of minutes with colons or blanks between them. -/
  shift (sign : Int) (cs : List Char) : Option (Int × List Char) :=
    match cs with
    | a :: b :: rest =>
      match rest.dropWhile (fun c => c = ':' || isBlank c) with
      | c :: d :: rest =>
        if [a, b, c, d].all Char.isDigit then
          let hours := Nat.ofDigitChars 10 [a, b] 0
          let minutes := Nat.ofDigitChars 10 [c, d] 0
          if hours < 24 ∧ minutes < 60 then
            some (sign * (hours * 3600 + minutes * 60 : Nat), rest)
          else none
        else none
      | _ => none
    | _ => none

/-- Whether the calendar has a year. -/
def hasYear (year : Int) : Bool := decide (-262143 ≤ year ∧ year ≤ 262142)

/-- The point in time that a text stands for. -/
def ofChars? (cs : List Char) : Option Timestamp := do
  let (year, cs) ← year? cs
  let cs ← expect? '-' cs
  let (month, cs) ← number? 2 cs
  let cs ← expect? '-' cs
  let (day, cs) ← number? 2 cs
  let cs ← match cs with
    | c :: rest => if c = 'T' ∨ c = 't' ∨ c = ' ' then some rest else none
    | [] => none
  let (hour, cs) ← number? 2 cs
  let cs ← expect? ':' cs
  let (minute, cs) ← number? 2 cs
  let cs ← expect? ':' cs
  let (second, cs) ← number? 2 cs
  let (nanosecond, cs) ← nanoseconds? cs
  let (ahead, cs) ← offset? (skipBlanks cs)
  let inCalendar := hasYear year &&
    decide (1 ≤ month ∧ month ≤ 12 ∧ 1 ≤ day ∧ day ≤ daysIn year month)
  let inDay := decide (hour < 24 ∧ minute < 60 ∧ second ≤ 60)
  if inCalendar && inDay && (skipBlanks cs).isEmpty then
    let leap := second / 60
    let t := toUniversal {
      year, month, day
      secondOfDay := hour * 3600 + minute * 60 + (second - leap)
      nanosecond := nanosecond + leap * 1000000000 } ahead
    if hasYear t.year then return t else none
  else none

/-- The point in time that a text stands for. -/
def read? (s : String) : Option Timestamp := ofChars? s.toList

end Timestamp

end OrderDesk
