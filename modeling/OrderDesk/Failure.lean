import OrderDesk.ClientId
import OrderDesk.Number.Layout
import OrderDesk.Order.Form
import OrderDesk.RateLimit.Basic

/-!
# Failures

A `TransportFailure` is what went wrong on the way to a venue, before anyone has judged it.  A
`Failure` is the judgement: it may be retried, or it is fatal, or the operation was cancelled.
A `ConfigFault` says why a configuration is not accepted.  Each kind has one function that
words it.
-/

namespace OrderDesk

/-- What went wrong between a desk and its venue. -/
inductive TransportFailure where
  | timeout (message : String)
  | connection (message : String)
  | inputOutput (message : String)
  | http (status : UInt16) (message : String)
  | venue (code : String) (message : String)
  | other (message : String)
deriving DecidableEq, Repr

namespace TransportFailure

/-- The wording of a transport failure. -/
def message : TransportFailure → String
  | .timeout m => "Request timed out: " ++ m
  | .connection m => "Connection failed: " ++ m
  | .inputOutput m => "I/O error: " ++ m
  | .http status m => "HTTP " ++ toString status.toNat ++ ": " ++ m
  | .venue code m => "Venue error " ++ code ++ ": " ++ m
  | .other m => m

end TransportFailure

/-- Why an order is not accepted. -/
inductive OrderFault where
  /-- A price that the type needs is missing, or the quantity is not above zero. -/
  | incomplete (side : Side) (orderType : OrderType) (quantity : Decimal) (symbol : String)
  /-- An extra has the name under which the venue expects the client id. -/
  | reservedExtra (key : String)
  | stated (message : String)
deriving DecidableEq, Repr

namespace OrderFault

/-- The wording of an order fault. -/
def message : OrderFault → String
  | .incomplete side orderType quantity symbol =>
    side.word ++ " " ++ orderType.word ++ " order for " ++ quantity.text ++ " " ++ symbol ++
      " is missing a required price or quantity"
  | .reservedExtra key => "extra field '" ++ key ++ "' would override the client id"
  | .stated m => m

end OrderFault

/-- A failure that another attempt may get past. -/
inductive RetryableCause where
  | transient (message : String)
  | rateLimitExceeded (limit : RateLimit)
  | venueUnavailable (status : String) (message : String)
deriving DecidableEq, Repr

namespace RetryableCause

/-- The wording of a retryable failure. -/
def message : RetryableCause → String
  | .transient m => "Transient failure: " ++ m
  | .rateLimitExceeded limit => "Rate limit exceeded: " ++ limit.text
  | .venueUnavailable status m => "Venue unavailable (" ++ status ++ "): " ++ m

end RetryableCause

/-- A failure that another attempt would only repeat. -/
inductive FatalCause where
  | unknownClientId (id : ClientId)
  | orderConflict (id : ClientId)
  | invalidOrder (fault : OrderFault)
  | rejected (message : String)
  | missingVenueOrderId (id : ClientId)
  | unclassified (message : String)
deriving DecidableEq, Repr

namespace FatalCause

/-- The wording of a fatal failure. -/
def message : FatalCause → String
  | .unknownClientId id => "Unknown client id " ++ id.text
  | .orderConflict id => "client_id " ++ id.text ++ " reused with different payload"
  | .invalidOrder fault => "Invalid order: " ++ fault.message
  | .rejected m => "Venue rejected request: " ++ m
  | .missingVenueOrderId id => "Cached order " ++ id.text ++ " has no venue order id"
  | .unclassified m => "Unclassified failure: " ++ m

end FatalCause

/-- Why an operation did not succeed. -/
inductive Failure where
  | retryable (cause : RetryableCause)
  | fatal (cause : FatalCause)
  | cancelled
deriving DecidableEq, Repr

namespace Failure

/-- The wording of a failure. -/
def message : Failure → String
  | .retryable cause => cause.message
  | .fatal cause => cause.message
  | .cancelled => "Operation cancelled"

/-- Whether another attempt may get past the failure. -/
def isRetryable : Failure → Bool
  | .retryable _ => true
  | _ => false

end Failure

/-- Results with a failure on one side can be compared if the values on the other can. -/
instance decidableEqExceptFailure {α : Type} [DecidableEq α] : DecidableEq (Except Failure α)
  | .ok a, .ok b =>
    if h : a = b then isTrue (congrArg Except.ok h) else isFalse fun e => h (Except.ok.inj e)
  | .error f, .error g =>
    if h : f = g then isTrue (congrArg Except.error h)
    else isFalse fun e => h (Except.error.inj e)
  | .ok _, .error _ => isFalse nofun
  | .error _, .ok _ => isFalse nofun

/-- Why a configuration value is not accepted. -/
inductive ConfigFault where
  | noAttempts
  | backoff (value : Binary64)
  | jitter (value : Binary64)
  | emptyLimit (limit : RateLimit)
  | seconds (field : String) (value : Binary64)
  | stated (message : String)
deriving DecidableEq, Repr

namespace ConfigFault

/-- The wording of a config fault. -/
def message : ConfigFault → String
  | .noAttempts => "retry max_attempts must be at least 1"
  | .backoff x => "retry backoff must be positive, got " ++ NumberLayout.message.text x
  | .jitter x => "retry jitter must be within [0, 1], got " ++ NumberLayout.message.text x
  | .emptyLimit limit =>
    "RateLimiter requires positive capacity and period, got " ++ limit.text
  | .seconds field x =>
    field ++ " must be a non-negative number, got " ++ NumberLayout.message.text x
  | .stated m => m

end ConfigFault

/-- Why a configuration is not accepted. -/
inductive ConfigError where
  | unreadable (path : String) (message : String)
  | malformed (message : String)
  | invalid (fault : ConfigFault)
deriving DecidableEq, Repr

namespace ConfigError

/-- The wording of a config error. -/
def message : ConfigError → String
  | .unreadable path m => "Failed to read " ++ path ++ ": " ++ m
  | .malformed m => "Failed to parse settings: " ++ m
  | .invalid fault => "Invalid configuration: " ++ fault.message

end ConfigError

end OrderDesk
