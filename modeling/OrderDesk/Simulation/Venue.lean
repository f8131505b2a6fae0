import OrderDesk.Desk.Basic

/-!
# A scripted venue

A scripted venue plays its entries one after the other, each for one call.  An entry may cancel
the desk's token, let the desk's clock run on, take some time and wait at a gate; then it
answers.  Without an entry, or where an entry gives no answer, a submission is echoed, a cancel
is acknowledged without a body and the list of open orders is empty.
-/

namespace OrderDesk

/-- What a venue answers to a call. -/
inductive VenueReply where
  | accepted (response : Payload)
  | acknowledged (raw : Option Payload)
  | listed (orders : List Payload)
  | failed (failure : TransportFailure)

/-- What a venue does on one call. -/
structure ScriptEntry where
  cancelsToken : Bool
  /-- By how many nanoseconds the desk's clock runs on. -/
  advance : Nat
  /-- How many milliseconds the call takes. -/
  duration : Nat
  /-- The gate at which the call waits for a permit. -/
  gate : Option String
  reply : Option VenueReply

/-- An entry that answers at once. -/
def ScriptEntry.plain : ScriptEntry := ⟨false, 0, 0, none, none⟩

/-- The entries that are still to be played, and the number of submissions so far. -/
structure ScriptedVenue where
  submit : List ScriptEntry
  cancel : List ScriptEntry
  openOrders : List ScriptEntry
  submissions : Nat

namespace ScriptedVenue

/-- A venue without entries. -/
def empty : ScriptedVenue := ⟨[], [], [], 0⟩

/-- A request echoed with an id and a status. -/
def echo (request : Payload) (number : Nat) : Payload :=
  (request.insert "id" (.str ("venue-" ++ toString number))).insert "status" (.str "accepted")

/-- The reply to a call for which the script has none. -/
def standardReply (call : VenueCall) (submissions : Nat) : VenueReply :=
  match call with
  | .submit request => .accepted (echo request submissions)
  | .cancel _ => .acknowledged none
  | .openOrders => .listed []

/-- The next entry for a call, with its reply. -/
def take (v : ScriptedVenue) (call : VenueCall) : ScriptedVenue × ScriptEntry × VenueReply :=
  let (v, entry) : ScriptedVenue × ScriptEntry := match call with
    | .submit _ =>
      ({ v with submit := v.submit.tail, submissions := v.submissions + 1 },
        v.submit.headD .plain)
    | .cancel _ => ({ v with cancel := v.cancel.tail }, v.cancel.headD .plain)
    | .openOrders => ({ v with openOrders := v.openOrders.tail }, v.openOrders.headD .plain)
  (v, entry, entry.reply.getD (standardReply call v.submissions))

end ScriptedVenue

end OrderDesk
