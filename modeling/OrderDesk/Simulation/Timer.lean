import OrderDesk.Duration

/-!
# Timers of virtual time

Virtual time is counted in whole milliseconds.  A timer covers the span it is set for, but it
never runs longer than thirty years.
-/

namespace OrderDesk

namespace Timer

/-- The longest time in milliseconds that a timer runs: thirty years of 365 days. -/
def longest : Nat := 946080000000

/-- How many milliseconds a timer runs that is set for so many. -/
def span (milliseconds : Nat) : Nat := min milliseconds longest

/-- How many milliseconds a timer runs that is set for a duration. -/
def spanOf (d : Duration) : Nat := span d.coveringMilliseconds

end Timer

end OrderDesk
