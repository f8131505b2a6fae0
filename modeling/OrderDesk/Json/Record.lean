import OrderDesk.Json.Basic

/-!
# Records in JSON

A record with named fields is written as an object, and may also be read from an array of its
fields in order.  A word out of a fixed list is written as a text, and may also be read from an
object whose only field has that word for its name and `null` for its value.
-/

namespace OrderDesk

namespace Value

/-- The fields of a record, in order.  In an object any of them may be missing; in an array at
most the last `optional` ones. -/
def asRecord? (names : List String) (optional : Nat) (v : Value) : Option (List (Option Value)) :=
  match v.asPayload?, v.asItems? with
  | some p, _ => some (names.map p.get?)
  | none, some items =>
    if items.length ≤ names.length ∧ names.length ≤ items.length + optional then
      some (items.map some ++ List.replicate (names.length - items.length) none)
    else none
  | none, none => none

/-- A field that may be missing or `null`. -/
def optionalField? {α : Type} (read : Value → Option α) : Option Value → Option (Option α)
  | none => some none
  | some v => if v.json = .null then some none else (read v).map some

/-- The word that a value stands for. -/
def asWord? (v : Value) : Option String :=
  match v.json with
  | .str s => some s
  | .obj [(word, .null)] => some word
  | _ => none

/-- The member of a list whose word a value stands for. -/
def asOneOf? {α : Type} (members : List α) (word : α → String) (v : Value) : Option α :=
  v.asWord? >>= fun w => members.find? fun a => word a == w

/-- The texts of an array of texts. -/
def asTexts? (v : Value) : Option (List String) :=
  v.asItems? >>= fun items => items.mapM asText?

end Value

end OrderDesk
