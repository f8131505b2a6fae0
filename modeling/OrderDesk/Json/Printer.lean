import OrderDesk.Json.Basic
import OrderDesk.Number.Layout

/-!
# JSON text

The compact text of a JSON tree: no blanks, object fields in their order, doubles in the
layout of JSON numbers, and in quoted text only quotes, backslashes and control characters
escaped.
-/

namespace OrderDesk

namespace JsonNumber

/-- The text of a number. -/
def chars : JsonNumber → List Char
  | .int n => if n < 0 then '-' :: Nat.toDigits 10 n.natAbs else Nat.toDigits 10 n.natAbs
  | .double x => NumberLayout.json.chars x

/-- The text of a number as a string. -/
def text (n : JsonNumber) : String := String.ofList n.chars

end JsonNumber

namespace Json

/-- The written form of a character between quotes. -/
def escape (c : Char) : List Char :=
  if c = '"' then ['\\', '"']
  else if c = '\\' then ['\\', '\\']
  else if c = '\n' then ['\\', 'n']
  else if c = '\r' then ['\\', 'r']
  else if c = '\t' then ['\\', 't']
  else if c = '\x08' then ['\\', 'b']
  else if c = '\x0c' then ['\\', 'f']
  else if c.toNat < 32 then
    ['\\', 'u', '0', '0', (c.toNat / 16).digitChar, (c.toNat % 16).digitChar]
  else [c]

/-- A text between quotes. -/
def quote (s : List Char) : List Char := '"' :: (s.flatMap escape ++ ['"'])

mutual

/-- The text of a tree. -/
def chars : Json → List Char
  | .null => ['n', 'u', 'l', 'l']
  | .bool true => ['t', 'r', 'u', 'e']
  | .bool false => ['f', 'a', 'l', 's', 'e']
  | .num n => n.chars
  | .str s => quote s.toList
  | .arr [] => ['[', ']']
  | .arr (x :: xs) => '[' :: (chars x ++ itemsChars xs)
  | .obj [] => ['\x7b', '\x7d']
  | .obj ((k, x) :: xs) => '\x7b' :: (quote k.toList ++ ':' :: (chars x ++ fieldsChars xs))

/-- The text of the items of an array after the first, with the closing bracket. -/
def itemsChars : List Json → List Char
  | [] => [']']
  | x :: xs => ',' :: (chars x ++ itemsChars xs)

/-- The text of the fields of an object after the first, with the closing brace. -/
def fieldsChars : List (String × Json) → List Char
  | [] => ['\x7d']
  | (k, x) :: xs => ',' :: (quote k.toList ++ ':' :: (chars x ++ fieldsChars xs))

end

/-- The text of a tree as a string. -/
def text (j : Json) : String := String.ofList j.chars

end Json

namespace Value

/-- The text of a value. -/
def text (v : Value) : String := v.json.text

end Value

namespace Payload

/-- The text of an object. -/
def text (p : Payload) : String := (Json.obj p.fields).text

end Payload

end OrderDesk
