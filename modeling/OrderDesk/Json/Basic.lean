import OrderDesk.Fields
import OrderDesk.Number.Binary64

/-!
# JSON trees

A `Json` is a JSON tree; integers and doubles are different numbers.  A tree is *ordered* when
the names of each of its objects strictly increase, so that equal content means equal trees.
`Value` is an ordered tree and `Payload` an ordered object.
-/

namespace OrderDesk

/-- A number of a JSON tree. -/
inductive JsonNumber where
  | int (value : Int)
  | double (value : Binary64)
deriving DecidableEq, Repr

/-- A JSON tree. -/
inductive Json where
  | null
  | bool (value : Bool)
  | num (value : JsonNumber)
  | str (value : String)
  | arr (items : List Json)
  | obj (fields : List (String × Json))

namespace Json

mutual

/-- Whether two trees are the same. -/
def same : Json → Json → Bool
  | .null, .null => true
  | .bool a, .bool b => a == b
  | .num a, .num b => decide (a = b)
  | .str a, .str b => a == b
  | .arr as, .arr bs => sameItems as bs
  | .obj as, .obj bs => sameFields as bs
  | _, _ => false

/-- Whether two lists of trees are the same. -/
def sameItems : List Json → List Json → Bool
  | [], [] => true
  | a :: as, b :: bs => same a b && sameItems as bs
  | _, _ => false

/-- Whether two lists of named trees are the same. -/
def sameFields : List (String × Json) → List (String × Json) → Bool
  | [], [] => true
  | (k, a) :: as, (l, b) :: bs => k == l && same a b && sameFields as bs
  | _, _ => false

end

mutual

theorem eq_of_same : (a b : Json) → same a b = true → a = b
  | .null, b, h => by cases b <;> simp_all [same]
  | .bool _, b, h => by cases b <;> simp_all [same]
  | .num _, b, h => by cases b <;> simp_all [same]
  | .str _, b, h => by cases b <;> simp_all [same]
  | .arr as, b, h => by
    cases b with
    | arr bs => rw [eq_of_sameItems as bs (by simpa [same] using h)]
    | _ => simp [same] at h
  | .obj as, b, h => by
    cases b with
    | obj bs => rw [eq_of_sameFields as bs (by simpa [same] using h)]
    | _ => simp [same] at h

theorem eq_of_sameItems : (as bs : List Json) → sameItems as bs = true → as = bs
  | [], bs, h => by cases bs <;> simp_all [sameItems]
  | a :: as, bs, h => by
    cases bs with
    | nil => simp [sameItems] at h
    | cons b bs =>
      simp only [sameItems, Bool.and_eq_true] at h
      rw [eq_of_same a b h.1, eq_of_sameItems as bs h.2]

theorem eq_of_sameFields : (as bs : List (String × Json)) → sameFields as bs = true → as = bs
  | [], bs, h => by cases bs <;> simp_all [sameFields]
  | (k, a) :: as, bs, h => by
    cases bs with
    | nil => simp [sameFields] at h
    | cons b bs =>
      obtain ⟨l, b⟩ := b
      simp only [sameFields, Bool.and_eq_true, beq_iff_eq] at h
      rw [h.1.1, eq_of_same a b h.1.2, eq_of_sameFields as bs h.2]

end

mutual

theorem same_self : (a : Json) → same a a = true
  | .null => rfl
  | .bool _ => by simp [same]
  | .num _ => by simp [same]
  | .str _ => by simp [same]
  | .arr as => by simpa [same] using sameItems_self as
  | .obj as => by simpa [same] using sameFields_self as

theorem sameItems_self : (as : List Json) → sameItems as as = true
  | [] => rfl
  | a :: as => by simp [sameItems, same_self a, sameItems_self as]

theorem sameFields_self : (as : List (String × Json)) → sameFields as as = true
  | [] => rfl
  | (_, a) :: as => by simp [sameFields, same_self a, sameFields_self as]

end

instance : DecidableEq Json := fun a b =>
  decidable_of_iff (same a b = true)
    ⟨eq_of_same a b, fun h => h ▸ same_self a⟩

instance : Inhabited Json := ⟨.null⟩

mutual

/-- The names of every object in the tree strictly increase. -/
def Ordered : Json → Prop
  | .arr items => AllOrdered items
  | .obj fields => Fields.Ascending fields ∧ FieldsOrdered fields
  | _ => True

/-- Every tree of the list is ordered. -/
def AllOrdered : List Json → Prop
  | [] => True
  | x :: xs => x.Ordered ∧ AllOrdered xs

/-- Every named tree of the list is ordered. -/
def FieldsOrdered : List (String × Json) → Prop
  | [] => True
  | (_, x) :: xs => x.Ordered ∧ FieldsOrdered xs

end

theorem allOrdered_iff {items : List Json} :
  AllOrdered items ↔ ∀ x ∈ items, x.Ordered
  := by
  induction items with
  | nil => simp [AllOrdered]
  | cons x xs ih => simp [AllOrdered, ih]

theorem fieldsOrdered_iff {fields : List (String × Json)} :
  FieldsOrdered fields ↔ ∀ p ∈ fields, p.2.Ordered
  := by
  induction fields with
  | nil => simp [FieldsOrdered]
  | cons p ps ih =>
    obtain ⟨k, x⟩ := p
    simp [FieldsOrdered, ih]

end Json

/-- An ordered JSON tree. -/
structure Value where
  json : Json
  ordered : json.Ordered
deriving DecidableEq

/-- An ordered JSON object. -/
structure Payload where
  fields : List (String × Json)
  ordered : (Json.obj fields).Ordered
deriving DecidableEq

namespace Value

theorem ext {a b : Value} (h : a.json = b.json) :
  a = b
  := by
  cases a
  cases b
  simp_all

/-- The value `null`. -/
def null : Value := ⟨.null, trivial⟩

/-- A truth value. -/
def bool (b : Bool) : Value := ⟨.bool b, trivial⟩

/-- A number. -/
def num (n : JsonNumber) : Value := ⟨.num n, trivial⟩

/-- An integer. -/
def int (n : Int) : Value := num (.int n)

/-- A text. -/
def str (s : String) : Value := ⟨.str s, trivial⟩

/-- An array. -/
def arr (items : List Value) : Value :=
  ⟨.arr (items.map Value.json), Json.allOrdered_iff.2 (by
    intro x hx
    obtain ⟨v, _, rfl⟩ := List.mem_map.1 hx
    exact v.ordered)⟩

/-- An object. -/
def obj (p : Payload) : Value := ⟨.obj p.fields, p.ordered⟩

instance : Inhabited Value := ⟨null⟩

/-- The text of a text value. -/
def asText? (v : Value) : Option String :=
  match v.json with
  | .str s => some s
  | _ => none

/-- The truth value of a truth value. -/
def asBool? (v : Value) : Option Bool :=
  match v.json with
  | .bool b => some b
  | _ => none

/-- The number of a numeric value. -/
def asNumber? (v : Value) : Option JsonNumber :=
  match v.json with
  | .num n => some n
  | _ => none

/-- The integer of an integral value. -/
def asInt? (v : Value) : Option Int :=
  match v.json with
  | .num (.int n) => some n
  | _ => none

/-- The items of an array. -/
def asItems? : Value → Option (List Value)
  | ⟨.arr items, h⟩ =>
    some (items.attach.map fun x => ⟨x.1, Json.allOrdered_iff.1 h x.1 x.2⟩)
  | _ => none

/-- The object that an object value is. -/
def asPayload? : Value → Option Payload
  | ⟨.obj fields, h⟩ => some ⟨fields, h⟩
  | _ => none

end Value

namespace Payload

theorem ext {a b : Payload} (h : a.fields = b.fields) :
  a = b
  := by
  cases a
  cases b
  simp_all

/-- The object without fields. -/
def empty : Payload := ⟨[], List.Pairwise.nil, trivial⟩

instance : Inhabited Payload := ⟨empty⟩

/-- The value under a name. -/
def get? (p : Payload) (key : String) : Option Value :=
  match h : Fields.get? p.fields key with
  | none => none
  | some j => some ⟨j, Json.fieldsOrdered_iff.1 p.ordered.2 (key, j) (Fields.mem_of_get? h)⟩

/-- Whether a name has a value. -/
def contains (p : Payload) (key : String) : Bool := (Fields.get? p.fields key).isSome

/-- The object with `value` under `key`, replacing the value that was there. -/
def insert (p : Payload) (key : String) (value : Value) : Payload :=
  ⟨Fields.insert p.fields key value.json, p.ordered.1.insert key value.json,
    Json.fieldsOrdered_iff.2 (by
      intro f hf
      rcases Fields.mem_of_mem_insert hf with rfl | hf
      · exact value.ordered
      · exact Json.fieldsOrdered_iff.1 p.ordered.2 f hf)⟩

/-- The fields as values, in the order of their names. -/
def toList (p : Payload) : List (String × Value) :=
  p.fields.attach.map fun f => (f.1.1, ⟨f.1.2, Json.fieldsOrdered_iff.1 p.ordered.2 f.1 f.2⟩)

/-- The object with the given fields; of two values under one name the last one counts. -/
def ofList (fs : List (String × Value)) : Payload :=
  fs.foldl (fun p f => p.insert f.1 f.2) empty

/-- The object with `value` under `key` unless the name has a value already. -/
def insertIfAbsent (p : Payload) (key : String) (value : Value) : Payload :=
  if p.contains key then p else p.insert key value

/-- The trees of an object and the values read from it agree. -/
theorem get?_map_json (p : Payload) (key : String) :
  (p.get? key).map Value.json = Fields.get? p.fields key
  := by
  unfold get?
  split <;> simp_all

theorem get?_insert_self (p : Payload) (key : String) (value : Value) :
  (p.insert key value).get? key = some value
  := by
  have h := get?_map_json (p.insert key value) key
  rw [insert, Fields.get?_insert_self] at h
  obtain ⟨v, hv, hj⟩ := Option.map_eq_some_iff.1 h
  have : v = value := Value.ext hj
  exact this ▸ hv

theorem get?_insert_of_ne (p : Payload) {key other : String} (value : Value)
    (h : other ≠ key) :
  (p.insert key value).get? other = p.get? other
  := by
  have h₁ := get?_map_json (p.insert key value) other
  rw [insert, Fields.get?_insert_of_ne _ _ h, ← get?_map_json p other] at h₁
  exact Option.map_injective (fun _ _ => Value.ext) h₁

end Payload

end OrderDesk
