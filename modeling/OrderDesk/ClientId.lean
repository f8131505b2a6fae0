import OrderDesk.Json.Basic

/-!
# Client order ids

A `ClientId` names one logical order for the lifetime of a desk.  A desk generates ids from the
venue's name and a sequence number that is written with at least six digits.
-/

namespace OrderDesk

/-- The id under which a client submits an order. -/
structure ClientId where
  text : String
deriving DecidableEq, Repr, Inhabited

namespace ClientId

theorem text_inj {a b : ClientId} :
  a.text = b.text ↔ a = b
  := by
  cases a
  cases b
  simp

/-- A number with at least six digits. -/
def sixDigits (n : Nat) : List Char :=
  let digits := Nat.toDigits 10 n
  List.replicate (6 - digits.length) '0' ++ digits

/-- The id made of a venue's name and a sequence number. -/
def generated (venue : String) (sequence : UInt64) : ClientId :=
  ⟨venue ++ "-" ++ String.ofList (sixDigits sequence.toNat)⟩

/-- The JSON form of an id is its text. -/
def toValue (id : ClientId) : Value := .str id.text

/-- The id that a JSON value stands for. -/
def ofValue? (v : Value) : Option ClientId := v.asText?.map ClientId.mk

end ClientId

end OrderDesk
