import OrderDesk.Duration

/-!
# Rate limits

A `RateLimit` admits at most `maxCalls` calls within any window of the length `period`.
-/

namespace OrderDesk

/-- A number of calls per period. -/
structure RateLimit where
  maxCalls : Nat
  period : Duration
deriving DecidableEq, Repr

namespace RateLimit

/-- A number of calls per second. -/
def perSecond (calls : Nat) : RateLimit := ⟨calls, ⟨1000000000, by decide⟩⟩

/-- A number of calls per minute. -/
def perMinute (calls : Nat) : RateLimit := ⟨calls, ⟨60000000000, by decide⟩⟩

/-- A limit that admits calls at all and whose window has a length. -/
def isValid (l : RateLimit) : Bool := l.maxCalls != 0 && !l.period.isZero

/-- The text of a limit. -/
def text (l : RateLimit) : String :=
  toString l.maxCalls ++ " calls per " ++ l.period.text

end RateLimit

end OrderDesk
