import OrderDesk.Venue.Basic

/-!
# Judging failures

Which failures of a venue may be retried.  Timeouts, lost connections and input or output
errors may be, whatever the venue; so may the HTTP statuses 429 and 500 upwards.  Error codes
mean different things to different venues.
-/

namespace OrderDesk

/-- The number that digits stand for if it fits into 16 bits. -/
def readDigits? (digits : List Char) : Option UInt16 :=
  if digits.isEmpty ∨ digits.any (fun c => !c.isDigit) then none
  else
    let n := Nat.ofDigitChars 10 digits 0
    if n < 0x10000 then some n.toUInt16 else none

/-- The number that a text of digits stands for if it fits into 16 bits; one `+` may precede. -/
def readStatus? (s : String) : Option UInt16 :=
  match s.toList with
  | '+' :: digits => readDigits? digits
  | digits => readDigits? digits

/-- Whether an HTTP status says that the venue is overloaded or down. -/
def isUnavailableStatus (status : UInt16) : Bool := status == 429 || decide (500 ≤ status)

namespace Venue

/-- Whether an error code of the venue says that the venue is overloaded or down. -/
def isUnavailableCode : Venue → String → Bool
  | .alpaca, _ => false
  | .oanda, code => code == "RATE_LIMIT" || (readStatus? code).any fun s => decide (500 ≤ s)
  | .ccxt, code =>
    ["NetworkError", "RequestTimeout", "ExchangeNotAvailable", "DDoSProtection",
      "RateLimitExceeded"].contains code

/-- The judgement on a transport failure. -/
def judge (venue : Venue) (failure : TransportFailure) : Failure :=
  match failure with
  | .timeout _ => .retryable (.transient failure.message)
  | .connection _ => .retryable (.transient failure.message)
  | .inputOutput _ => .retryable (.transient failure.message)
  | .other m => .fatal (.unclassified m)
  | .http status m =>
    if isUnavailableStatus status then
      .retryable (.venueUnavailable (toString status.toNat) m)
    else .fatal (.rejected failure.message)
  | .venue code m =>
    if venue.isUnavailableCode code then .retryable (.venueUnavailable code m)
    else .fatal (.rejected failure.message)

end Venue

end OrderDesk
