import OrderDesk.Json.Printer

/-!
# Fingerprints of requests

The fingerprint of an object lists its scalars and empty containers by their paths.  A path
joins quoted names by points and appends the positions in arrays, so that no two places of an
object share a path and two objects have the same fingerprint only if they are the same tree.
-/

namespace OrderDesk

/-- The paths of an object with the texts found there, in ascending order. -/
structure Fingerprint where
  entries : List (String × String)
deriving DecidableEq, Repr

namespace Fingerprint

/-- The path of a named field; the path of the whole object is empty. -/
def namedPath (path : List Char) (key : String) : List Char :=
  if path.isEmpty then Json.quote key.toList else path ++ '.' :: Json.quote key.toList

/-- The path of an item of an array. -/
def itemPath (path : List Char) (index : Nat) : List Char :=
  path ++ '[' :: (Nat.toDigits 10 index ++ [']'])

mutual

/-- The paths below a tree with the texts found there. -/
def leaves (path : List Char) : Json → List (List Char × List Char)
  | .obj fields =>
    if fields.isEmpty then [(path, Json.chars (.obj []))] else fieldLeaves path fields
  | .arr items =>
    if items.isEmpty then [(path, Json.chars (.arr []))] else itemLeaves path 0 items
  | leaf => [(path, leaf.chars)]

/-- The paths below the items of an array from some position on. -/
def itemLeaves (path : List Char) (index : Nat) : List Json → List (List Char × List Char)
  | [] => []
  | x :: xs => leaves (itemPath path index) x ++ itemLeaves path (index + 1) xs

/-- The paths below the fields of an object. -/
def fieldLeaves (path : List Char) : List (String × Json) → List (List Char × List Char)
  | [] => []
  | (k, x) :: xs => leaves (namedPath path k) x ++ fieldLeaves path xs

end

/-- The order of entries: by path, then by text. -/
def entryLe (a b : String × String) : Bool :=
  decide (a.1 < b.1) || (a.1 == b.1 && decide (a.2 ≤ b.2))

/-- The fingerprint of an object. -/
def of (p : Payload) : Fingerprint :=
  let entries := (fieldLeaves [] p.fields).map fun e => (String.ofList e.1, String.ofList e.2)
  ⟨entries.mergeSort entryLe⟩

/-- The fingerprint of a response that is stored without a known request. -/
def empty : Fingerprint := ⟨[]⟩

/-- Whether a fingerprint has no entry. -/
def isEmpty (f : Fingerprint) : Bool := f.entries.isEmpty

end Fingerprint

end OrderDesk
