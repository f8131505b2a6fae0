import OrderDesk.Failure

/-!
# Retry configurations

A `RetryConfig` says how often an operation is attempted and how long to pause in between.  The
pause before retry `k` is `baseDelay * backoff ^ k` seconds, at most `maxDelay`, shifted by a
random share of itself that the jitter bounds.
-/

namespace OrderDesk

/-- How often to attempt an operation and how long to pause in between. -/
structure RetryConfig where
  /-- The number of attempts, the first one included. -/
  maxAttempts : UInt32
  baseDelay : Duration
  /-- The factor by which the pause grows from one retry to the next. -/
  backoff : Binary64
  /-- The share of a pause by which it may be shortened or lengthened at random. -/
  jitter : Binary64
  maxDelay : Duration
deriving DecidableEq, Repr

namespace RetryConfig

/-- Three attempts, pauses of half a second and then twice as long each, up to five seconds. -/
def standard : RetryConfig where
  maxAttempts := 3
  baseDelay := ⟨500000000, by decide⟩
  backoff := 2
  jitter := .ofRatio false 1 10
  maxDelay := ⟨5000000000, by decide⟩

/-- So many attempts without pauses. -/
def immediate (attempts : UInt32) : RetryConfig where
  maxAttempts := attempts
  baseDelay := .zero
  backoff := 1
  jitter := 0
  maxDelay := .zero

/-- The first fault of a configuration, if it has one. -/
def fault? (c : RetryConfig) : Option ConfigFault :=
  if c.maxAttempts = 0 then some .noAttempts
  else if ¬c.backoff.isFinite ∨ c.backoff.le 0 then some (.backoff c.backoff)
  else if ¬((0 : Binary64).le c.jitter ∧ c.jitter.le 1) then some (.jitter c.jitter)
  else none

/-- The number of attempts that are made; zero counts as one. -/
def attempts (c : RetryConfig) : Nat := max 1 c.maxAttempts.toNat

/-- The pause before retry `k` without jitter.  A product that is not finite gives way to the
longest pause, and a number of seconds that is no span to no pause. -/
def baseDelayFor (c : RetryConfig) (k : Nat) : Duration :=
  let raw := c.baseDelay.toSeconds * c.backoff ^ min k 0x7fffffff
  let longest := c.maxDelay.toSeconds
  let capped := if raw.isFinite then raw.minimum longest else longest
  (Duration.ofSeconds? capped).getD .zero

/-- Whether the pause before retry `k` is shifted at random. -/
def isJittered (c : RetryConfig) (k : Nat) : Bool :=
  c.jitter.isFinite && (0 : Binary64).lt c.jitter && !(c.baseDelayFor k).isZero

/-- The greatest value of a random number below one. -/
def sampleTop : Binary64 := .ofRatio false 0xfffffffffffff 0x10000000000000

/-- The greatest scale from a given rank downwards with which no sample exceeds the bound. -/
def fitScale (bound : Binary64) : (rank : Nat) → rank < 0x7ff0000000000000 → Binary64
  | 0, _ => .zero
  | rank + 1, h =>
    let scale : Binary64 := .finite false ⟨rank + 1, h⟩
    if bound.lt (scale * sampleTop - bound) then fitScale bound rank (Nat.lt_of_succ_lt h)
    else scale

/-- The scale of random numbers between `-bound` and `bound`.  There are none if it is beyond all
doubles. -/
def sampleScale? (bound : Binary64) : Option Binary64 :=
  match (bound + bound) / sampleTop with
  | .finite false ⟨rank, h⟩ => some (fitScale bound rank h)
  | _ => none

/-- The random number between `-bound` and `bound` that a 64-bit word stands for; its lowest
twelve bits do not count. -/
def sample? (bound : Binary64) (word : UInt64) : Option Binary64 :=
  (sampleScale? bound).map fun scale =>
    .ofRatio false (word.toNat / 0x1000) 0x10000000000000 * scale - bound

/-- The pause before retry `k`, given the random word that its jitter uses.  There is none if the
jitter is too great to be drawn from. -/
def nextDelay? (c : RetryConfig) (k : Nat) (word : UInt64) : Option Duration :=
  let delay := c.baseDelayFor k
  if c.isJittered k then
    let seconds := delay.toSeconds
    (sample? c.jitter word).map fun share =>
      (Duration.ofSeconds? ((seconds + share * seconds).maximum 0)).getD .zero
  else some delay

end RetryConfig

end OrderDesk
