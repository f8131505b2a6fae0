import OrderDesk.Json.Record
import OrderDesk.Timestamp

/-!
# The audit log

An audit log keeps one entry per operation that succeeded, numbered from zero and only ever
appended to.  An `AuditRecord` is an entry with the time at which it was made.
-/

namespace OrderDesk

/-- The operations that are audited. -/
inductive AuditAction where
  | submitOrder
  | cancelOrder
  | reconcile
deriving DecidableEq, Repr, Inhabited

namespace AuditAction

/-- The word for an audited operation. -/
def word : AuditAction → String
  | .submitOrder => "submit_order"
  | .cancelOrder => "cancel_order"
  | .reconcile => "reconcile"

/-- Every audited operation. -/
def all : List AuditAction := [.submitOrder, .cancelOrder, .reconcile]

/-- The JSON form of an audited operation. -/
def toValue (a : AuditAction) : Value := .str a.word

/-- The audited operation that a JSON value stands for. -/
def ofValue? : Value → Option AuditAction := Value.asOneOf? all word

end AuditAction

/-- An operation that succeeded: what was asked and what was answered. -/
structure AuditEntry where
  sequence : Nat
  action : AuditAction
  payload : Payload
  response : Value
deriving DecidableEq

/-- The entries of an audit log, oldest first. -/
abbrev AuditLog := List AuditEntry

namespace AuditLog

/-- The log with one more entry, numbered by its position. -/
def append (log : AuditLog) (action : AuditAction) (payload : Payload) (response : Value) :
    AuditLog :=
  log ++ [⟨log.length, action, payload, response⟩]

end AuditLog

/-- An audit entry and when it was made. -/
structure AuditRecord extends AuditEntry where
  recordedAt : Timestamp
deriving DecidableEq

namespace AuditRecord

/-- The JSON form of a record. -/
def toValue (r : AuditRecord) : Value :=
  .obj (.ofList [
    ("sequence", .int r.sequence),
    ("action", r.action.toValue),
    ("payload", .obj r.payload),
    ("response", r.response),
    ("recorded_at", .str r.recordedAt.text)])

/-- The number of a record: an integer from zero up that fits into 64 bits. -/
def sequence? (v : Value) : Option Nat :=
  match v.asInt? with
  | some n => if 0 ≤ n ∧ n < 0x10000000000000000 then some n.toNat else none
  | none => none

/-- The record that a JSON value stands for. -/
def ofValue? (v : Value) : Option AuditRecord := do
  match ← v.asRecord? ["sequence", "action", "payload", "response", "recorded_at"] 0 with
  | [some sequence, some action, some payload, some response, some recordedAt] =>
    return {
      sequence := ← sequence? sequence
      action := ← AuditAction.ofValue? action
      payload := ← payload.asPayload?
      response
      recordedAt := ← recordedAt.asText? >>= Timestamp.read? }
  | _ => none

end AuditRecord

end OrderDesk
