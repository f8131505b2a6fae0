import OrderDesk.Json.Record

/-!
# Reconciling with a venue

A `Reconciliation` compares the ids that a desk knows with the ids that a venue lists: the two
set differences, each in ascending order.
-/

namespace OrderDesk

/-- A list of texts with one more text at its place, unless it is there already. -/
def insertText (s : String) : List String → List String
  | [] => [s]
  | t :: ts =>
    if s < t then s :: t :: ts
    else if s = t then t :: ts
    else t :: insertText s ts

/-- The distinct texts of a list in ascending order. -/
def distinctTexts (ts : List String) : List String := ts.foldr insertText []

/-- The difference between the ids known locally and those a venue lists. -/
structure Reconciliation where
  /-- Known locally, not listed by the venue. -/
  missingRemote : List String
  /-- Listed by the venue, not known locally. -/
  untrackedRemote : List String
deriving DecidableEq, Repr, Inhabited

namespace Reconciliation

/-- The comparison of two lists of ids, in which order and repetition do not matter. -/
def diff (known listed : List String) : Reconciliation :=
  { missingRemote := (distinctTexts known).filter fun s => !listed.contains s
    untrackedRemote := (distinctTexts listed).filter fun s => !known.contains s }

/-- Whether both sides have the same ids. -/
def isClean (r : Reconciliation) : Bool := r.missingRemote.isEmpty && r.untrackedRemote.isEmpty

/-- The JSON form of a comparison as an object. -/
def toPayload (r : Reconciliation) : Payload :=
  .ofList [
    ("missing_remote", .arr (r.missingRemote.map .str)),
    ("untracked_remote", .arr (r.untrackedRemote.map .str))]

/-- The JSON form of a comparison. -/
def toValue (r : Reconciliation) : Value := .obj r.toPayload

/-- The comparison that a JSON value stands for. -/
def ofValue? (v : Value) : Option Reconciliation := do
  match ← v.asRecord? ["missing_remote", "untracked_remote"] 0 with
  | [some missing, some untracked] =>
    return ⟨← missing.asTexts?, ← untracked.asTexts?⟩
  | _ => none

end Reconciliation

end OrderDesk
