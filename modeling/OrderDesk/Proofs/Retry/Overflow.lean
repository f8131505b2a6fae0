import OrderDesk.Proofs.Number.Growth
import OrderDesk.Proofs.Settings.Validity

/-!
# Pauses that cannot be drawn

A jittered pause is drawn from the numbers between the jitter and its opposite.  The distance of the
two has to be a double, with a little to spare since the greatest random number is not quite one,
and for a jitter from about half the greatest double on it is none.  Then the draw fails whatever
the random word.  It does not for a valid configuration, whose jitter is a share.
-/

namespace OrderDesk

open Binary64
open Magnitude (unitsOfRank unitsOfRank_strictMono unitsInOne)

namespace RetryConfig

variable {c : RetryConfig} {k : Nat} {m : Magnitude}

/-- Whether the draw of the pause before retry `k` fails. -/
def overflows (c : RetryConfig) (k : Nat) : Bool :=
  c.isJittered k && (sampleScale? c.jitter).isNone

/-- The draw fails for one random word exactly if it fails for all. -/
theorem nextDelay?_eq_none_iff {word : UInt64} :
  c.nextDelay? k word = none ↔ c.overflows k = true
  := by
  rw [nextDelay?, overflows]
  rcases jittered : c.isJittered k
  · simp
  · simp [sample?]

theorem exists_nextDelay? (h : c.overflows k = false) (word : UInt64) :
  ∃ delay, c.nextDelay? k word = some delay
  := by
  apply Option.ne_none_iff_exists'.1
  rw [ne_eq, nextDelay?_eq_none_iff, h]
  exact Bool.false_ne_true

section

variable {half double divisor last : Magnitude}

theorem units_pos (h : m.rank ≠ 0) :
  0 < m.units
  := by
  have hzero : unitsOfRank 0 < m.units := unitsOfRank_strictMono (Nat.pos_of_ne_zero h)
  exact Nat.zero_lt_of_lt hzero

/-- Twice a number that is not greater than the half of another one has a double for its quotient
if that other one has. -/
theorem double_div_of_le (hdouble : half.units + half.units = double.units)
    (hdivisor : divisor.rank ≠ 0)
    (hquotient : double.units * unitsInOne ≤ divisor.units * last.units) (h : m.rank ≤ half.rank) :
  ∃ n, (Binary64.finite false m + .finite false m) / .finite false divisor = .finite false n
  := by
  have hunits : m.units ≤ half.units := unitsOfRank_strictMono.monotone h
  have hsum : m.units + m.units ≤ 1 * double.units := by omega
  have hnearest := unitsOfRank_strictMono.monotone (nearestRank_le (by decide) hsum)
  have hbound := (Nat.mul_le_mul_right unitsInOne hnearest).trans hquotient
  rw [finite_add_finite, ofUnits_of_le false (by decide) hsum, finite_div_finite _ hdivisor]
  exact ⟨_, ofUnits_of_le false (units_pos hdivisor) hbound⟩

/-- Twice a number that is not smaller than the half of another one has no double for its quotient
if that other one has none. -/
theorem double_div_of_ge (hdouble : half.units + half.units = double.units)
    (hdivisor : divisor.rank ≠ 0)
    (hquotient : divisor.units * unitsOfRank 0x7ff0000000000000 ≤ double.units * unitsInOne)
    (h : half.rank ≤ m.rank) :
  (Binary64.finite false m + .finite false m) / .finite false divisor = .infinite false
  := by
  have hunits : half.units ≤ m.units := unitsOfRank_strictMono.monotone h
  have hsum : (Binary64.finite false m + .finite false m).AtLeast double.rank := by
    rw [finite_add_finite]
    apply atLeast_ofUnits (by decide)
    change 1 * double.units ≤ _
    omega
  obtain hsum | ⟨n, hsum, hn⟩ := hsum
  · rw [hsum]
    rfl
  · have hdouble : double.units ≤ n.units := unitsOfRank_strictMono.monotone hn
    rw [hsum, finite_div_finite _ hdivisor]
    obtain hinfinite | ⟨l, -, hl⟩ := atLeast_ofUnits (units_pos hdivisor)
      (hquotient.trans (Nat.mul_le_mul_right unitsInOne hdouble))
    · exact hinfinite
    · exact absurd l.rank_lt (Nat.not_lt.2 hl)

end

/-- The least jitter that cannot be drawn from, two doubles below two to the power of 1023. -/
def leastOverflowing : Magnitude := ⟨0x7fdffffffffffffe, by decide⟩

/-- The greatest jitter that can be drawn from. -/
def greatestDrawn : Magnitude := ⟨0x7fdffffffffffffd, by decide⟩

/-- The greatest random number. -/
def greatestSample : Magnitude := ⟨0x3feffffffffffffe, by decide⟩

theorem sampleTop_eq :
  sampleTop = .finite false greatestSample
  := by decide +kernel

/-- Twice the least jitter that cannot be drawn from is to the greatest random number as two to the
power of 1024 is to one. -/
theorem overflowing_scale :
  ∃ double : Magnitude, leastOverflowing.units + leastOverflowing.units = double.units
    ∧ greatestSample.units * unitsOfRank 0x7ff0000000000000 ≤ double.units * unitsInOne
  := ⟨⟨0x7feffffffffffffe, by decide⟩, by decide +kernel, by decide +kernel⟩

theorem drawn_scale :
  ∃ double last : Magnitude, greatestDrawn.units + greatestDrawn.units = double.units
    ∧ double.units * unitsInOne ≤ greatestSample.units * last.units
  := ⟨⟨0x7feffffffffffffd, by decide⟩, ⟨0x7fefffffffffffff, by decide⟩, by decide +kernel,
    by decide +kernel⟩

/-- There is a scale for all smaller jitters and for no others. -/
theorem sampleScale?_eq_none_iff :
  sampleScale? (.finite false m) = none ↔ leastOverflowing.rank ≤ m.rank
  := by
  have htop : greatestSample.rank ≠ 0 := by decide
  rw [sampleScale?, sampleTop_eq]
  by_cases h : leastOverflowing.rank ≤ m.rank
  · obtain ⟨double, hdouble, hquotient⟩ := overflowing_scale
    rw [double_div_of_ge hdouble htop hquotient h]
    exact iff_of_true rfl h
  · obtain ⟨double, last, hdouble, hquotient⟩ := drawn_scale
    have hle : m.rank ≤ greatestDrawn.rank := Nat.le_of_lt_succ (Nat.lt_of_not_le h)
    obtain ⟨n, hn⟩ := double_div_of_le hdouble htop hquotient hle
    rw [hn]
    exact iff_of_false nofun h

/-- The draw fails exactly if there is a pause to be drawn and the jitter is at least about half the
greatest double. -/
theorem overflows_iff :
  c.overflows k = true
    ↔ c.baseDelayFor k ≠ .zero ∧ ∃ m, c.jitter = .finite false m ∧ leastOverflowing.rank ≤ m.rank
  := by
  have hzero : (0 : Binary64).position? = some 0 := by decide +kernel
  have hempty : (c.baseDelayFor k).isZero = false ↔ c.baseDelayFor k ≠ .zero := by
    rw [← Bool.not_eq_true, Duration.isZero, beq_iff_eq]
    exact not_congr ⟨fun h => Duration.ext h, fun h => congrArg Duration.nanoseconds h⟩
  rw [overflows, isJittered, ← hempty]
  cases c.jitter with
  | nan => simp [isFinite]
  | infinite => simp [isFinite]
  | finite negative m =>
    cases negative with
    | true =>
      have hlt : (0 : Binary64).lt (.finite true m) = false := by
        rw [lt, hzero, position?]
        simp
      simp [hlt]
    | false =>
      have hlt : leastOverflowing.rank ≤ m.rank → (0 : Binary64).lt (.finite false m) = true := by
        intro h
        have hpos : 0 < m.rank := Nat.lt_of_lt_of_le (by decide) h
        rw [lt, hzero, position?]
        simpa using hpos
      simp only [isFinite, Bool.and_eq_true, Option.isNone_iff_eq_none, sampleScale?_eq_none_iff,
        Bool.not_eq_true', Binary64.finite.injEq]
      constructor
      · rintro ⟨⟨-, hdelay⟩, h⟩
        exact ⟨hdelay, m, ⟨trivial, rfl⟩, h⟩
      · rintro ⟨hdelay, _, ⟨-, rfl⟩, h⟩
        exact ⟨⟨⟨trivial, hlt h⟩, hdelay⟩, h⟩

/-- A share can be drawn from. -/
theorem Valid.overflows_eq_false (h : c.Valid) (k : Nat) :
  c.overflows k = false
  := by
  rw [Bool.eq_false_iff, ne_eq, overflows_iff]
  rintro ⟨-, m, hjitter, hm⟩
  have hshare := h.share.2
  rw [hjitter, one_eq, le, position?, position?] at hshare
  have hone : (m.rank : Int) ≤ rankOfOne := of_decide_eq_true hshare
  simp only [rankOfOne, leastOverflowing] at hone hm
  omega

end RetryConfig

end OrderDesk
