import OrderDesk.Json.Document
import OrderDesk.Json.Record
import OrderDesk.Retry.Config

/-!
# Settings

Settings are read from JSON text: the retry parameters, with durations in seconds, and
optionally a rate limit.  What is left out takes its standard value, unknown fields are
ignored, and a known field that is given twice is an error.  Whether the values make a valid
configuration is a second question, answered by `retryConfig` and `rateLimit`.
-/

namespace OrderDesk

/-- Retry parameters with durations in seconds. -/
structure RetrySettings where
  maxAttempts : UInt32
  baseDelaySeconds : Binary64
  backoff : Binary64
  jitter : Binary64
  maxDelaySeconds : Binary64
deriving DecidableEq, Repr

/-- A rate limit with its period in seconds. -/
structure RateLimitSettings where
  maxCalls : Nat
  periodSeconds : Binary64
deriving DecidableEq, Repr

/-- The settings of a desk. -/
structure Settings where
  retry : RetrySettings
  /-- The venue's own limit applies when it is missing. -/
  rateLimit : Option RateLimitSettings
deriving DecidableEq, Repr

namespace Document

/-- The members of a record that is written as an object or as the array of its fields in
order.  Fields may be left out, in an array from the end; in an object, fields with other
names are ignored, and no field of the record may stand twice. -/
def asRecord? (names : List String) : Document → Option (List (Option Document))
  | .object members =>
    if members.all (fun m => m.1.isSome) then
      names.mapM fun name =>
        match members.filter fun m => m.1 == some name with
        | [] => some none
        | [m] => some (some m.2)
        | _ => none
    else none
  | .array items =>
    if items.length ≤ names.length then
      some (items.map some ++ List.replicate (names.length - items.length) none)
    else none
  | _ => none

/-- A field with the value it takes when it is left out. -/
def field? {α : Type} (standard : α) (read : Document → Option α) : Option Document → Option α
  | none => some standard
  | some d => read d

/-- A double, for which an integer may stand too. -/
def asDouble? : Document → Option Binary64
  | .number l => l.toDouble?
  | _ => none

/-- A natural number below a bound. -/
def asNatBelow? (bound : Nat) : Document → Option Nat
  | .number l =>
    match l.toNumber? with
    | some (.int n) => if 0 ≤ n ∧ n < bound then some n.toNat else none
    | _ => none
  | _ => none

end Document

namespace RetrySettings

/-- The standard retry parameters. -/
def standard : RetrySettings where
  maxAttempts := RetryConfig.standard.maxAttempts
  baseDelaySeconds := RetryConfig.standard.baseDelay.toSeconds
  backoff := RetryConfig.standard.backoff
  jitter := RetryConfig.standard.jitter
  maxDelaySeconds := RetryConfig.standard.maxDelay.toSeconds

/-- The names of the retry parameters, in order. -/
def fieldNames : List String :=
  ["max_attempts", "base_delay_secs", "backoff", "jitter", "max_delay_secs"]

/-- The retry parameters that a document gives. -/
def ofDocument? (d : Document) : Option RetrySettings := do
  match ← d.asRecord? fieldNames with
  | [maxAttempts, baseDelay, backoff, jitter, maxDelay] =>
    let attempts ← Document.field? standard.maxAttempts.toNat (Document.asNatBelow? 0x100000000)
      maxAttempts
    return {
      maxAttempts := attempts.toUInt32
      baseDelaySeconds :=
        ← Document.field? standard.baseDelaySeconds Document.asDouble? baseDelay
      backoff := ← Document.field? standard.backoff Document.asDouble? backoff
      jitter := ← Document.field? standard.jitter Document.asDouble? jitter
      maxDelaySeconds :=
        ← Document.field? standard.maxDelaySeconds Document.asDouble? maxDelay }
  | _ => none

/-- The JSON form of retry parameters. -/
def toValue (r : RetrySettings) : Value :=
  .obj (.ofList [
    ("max_attempts", .int r.maxAttempts.toNat),
    ("base_delay_secs", .num (.double r.baseDelaySeconds)),
    ("backoff", .num (.double r.backoff)),
    ("jitter", .num (.double r.jitter)),
    ("max_delay_secs", .num (.double r.maxDelaySeconds))])

end RetrySettings

namespace RateLimitSettings

/-- The rate limit that a document gives; both of its fields are needed. -/
def ofDocument? (d : Document) : Option RateLimitSettings := do
  match ← d.asRecord? ["max_calls", "period_secs"] with
  | [some maxCalls, some period] =>
    return {
      maxCalls := ← maxCalls.asNatBelow? 0x10000000000000000
      periodSeconds := ← period.asDouble? }
  | _ => none

/-- The JSON form of a rate limit. -/
def toValue (r : RateLimitSettings) : Value :=
  .obj (.ofList [
    ("max_calls", .int r.maxCalls),
    ("period_secs", .num (.double r.periodSeconds))])

end RateLimitSettings

namespace Settings

/-- The settings that a document gives. -/
def ofDocument? (d : Document) : Option Settings := do
  match ← d.asRecord? ["retry", "rate_limit"] with
  | [retry, rateLimit] =>
    return {
      retry := ← Document.field? RetrySettings.standard RetrySettings.ofDocument? retry
      rateLimit := ← Document.field? none (fun
        | .null => some none
        | d => (RateLimitSettings.ofDocument? d).map some) rateLimit }
  | _ => none

/-- The settings in a JSON text. -/
def read (text : String) : Except ConfigError Settings :=
  match Document.read? text >>= ofDocument? with
  | some s => .ok s
  | none => .error (.malformed "not a settings document")

/-- The settings in a file with the given content, which must be text. -/
def ofContent (path : String) (content : ByteArray) : Except ConfigError Settings :=
  match String.fromUTF8? content with
  | some text => read text
  | none => .error (.unreadable path "not a text in UTF-8")

/-- The span of a number of seconds in a field. -/
def seconds (field : String) (value : Binary64) : Except ConfigError Duration :=
  match Duration.ofSeconds? value with
  | some d => .ok d
  | none => .error (.invalid (.seconds field value))

/-- The retry configuration that settings describe, if it is valid. -/
def retryConfig (s : Settings) : Except ConfigError RetryConfig := do
  let baseDelay ← seconds "retry.base_delay_secs" s.retry.baseDelaySeconds
  let maxDelay ← seconds "retry.max_delay_secs" s.retry.maxDelaySeconds
  let config : RetryConfig :=
    { maxAttempts := s.retry.maxAttempts, baseDelay, backoff := s.retry.backoff,
      jitter := s.retry.jitter, maxDelay }
  match config.fault? with
  | some fault => throw (.invalid fault)
  | none => return config

/-- The rate limit that settings describe, if they have one. -/
def rateLimit? (s : Settings) : Except ConfigError (Option RateLimit) :=
  match s.rateLimit with
  | none => .ok none
  | some limit =>
    (seconds "rate_limit.period_secs" limit.periodSeconds).map fun period =>
      some ⟨limit.maxCalls, period⟩

/-- The JSON form of settings. -/
def toValue (s : Settings) : Value :=
  .obj (.ofList [
    ("retry", s.retry.toValue),
    ("rate_limit", (s.rateLimit.map RateLimitSettings.toValue).getD .null)])

end Settings

end OrderDesk
