import OrderDesk.Venue.Judgement
import OrderDesk.Venue.Request
import OrderDesk.Venue.Response

/-!
# Venue profiles

What a desk knows of the venue it trades at: how requests are built, how responses are read and
which failures may be retried.  Each of the venues has its profile, and a desk may be given any
other.
-/

namespace OrderDesk

/-- What a desk knows of its venue. -/
structure VenueProfile where
  /-- The name with which generated ids begin. -/
  name : String
  /-- The limit that applies unless a desk is given another. -/
  rateLimit : RateLimit
  judge : TransportFailure → Failure
  buildRequest : ClientId → Order → Except Failure Payload
  /-- A response with the client id in it, given the id and the request. -/
  annotate : ClientId → Payload → Payload → Payload
  /-- What the audit log keeps of a submitted request. -/
  submitRecord : ClientId → Payload → Payload
  /-- The target of a cancel, given the id and the response that is cached for it. -/
  cancelTarget : ClientId → Payload → Except Failure CancelTarget
  cancelResponse : CancelTarget → Option Payload → Payload
  /-- What the audit log keeps of a cancel. -/
  cancelRecord : CancelTarget → Payload
  /-- The token by which a listed order is recognised. -/
  token? : Payload → Option String

/-- The profile of a venue. -/
def Venue.profile (venue : Venue) : VenueProfile where
  name := venue.name
  rateLimit := venue.rateLimit
  judge := venue.judge
  buildRequest := venue.buildRequest
  annotate := venue.annotate
  submitRecord := venue.submitRecord
  cancelTarget := venue.cancelTarget
  cancelResponse := venue.cancelResponse
  cancelRecord := cancelRecord
  token? := venue.token?

instance : Coe Venue VenueProfile := ⟨Venue.profile⟩

/-- Why an attempt failed: still to be judged, or judged already. -/
inductive AttemptError where
  | raw (failure : TransportFailure)
  | judged (failure : Failure)
deriving DecidableEq, Repr

namespace AttemptError

/-- The judgement on a failed attempt. -/
def judge (venue : VenueProfile) : AttemptError → Failure
  | .raw failure => venue.judge failure
  | .judged failure => failure

end AttemptError

end OrderDesk
