import OrderDesk.Duration
import OrderDesk.Proofs.Number.Growth

/-!
# Spans of time in seconds

A span in seconds is rounded three times, and a number of seconds is rounded once more to become a
span.  No span but the empty one becomes so small a number of seconds that there and back it would
be empty.  But the longest spans become `2 ^ 64` seconds, which is no span any more.
-/

namespace OrderDesk

open Binary64
open Magnitude (unitsOfRank unitsOfRank_strictMono unitsInOne)

namespace Duration

variable {m : Magnitude} {n : Nat}

/-- The rank of `2 ^ 64`, the least number of seconds that is no span. -/
def rankTooLong : Nat := 0x43f0000000000000

/-- The rank of `2 ^ (-30)`, a number of seconds between half a nanosecond and a whole one. -/
def rankNoticeable : Nat := 0x3e10000000000000

theorem ne_zero_of_noticeable (h : rankNoticeable ≤ n) :
  n ≠ 0
  := Nat.ne_of_gt (Nat.lt_of_lt_of_le (by decide) h)

/-- The double before `2 ^ 64`, this one, and the one after it. -/
theorem units_around_tooLong :
  unitsOfRank (rankTooLong - 1) = (0x10000000000000000 - 2048) * unitsInOne
  ∧ unitsOfRank rankTooLong = 0x10000000000000000 * unitsInOne
  ∧ unitsOfRank (rankTooLong + 1) = (0x10000000000000000 + 4096) * unitsInOne
  := by decide +kernel

theorem units_noticeable :
  unitsOfRank rankNoticeable * 1000000000 ≤ unitsInOne
  ∧ unitsInOne < 2 * (unitsOfRank rankNoticeable * 1000000000)
  := by decide +kernel

/-- Whole numbers of units are rounded to `2 ^ 64` from half-way to it from the double before. -/
theorem nearestRank_around_tooLong :
  nearestRank ((0x10000000000000000 - 1025) * unitsInOne) 1 < rankTooLong
  ∧ rankTooLong ≤ nearestRank ((0x10000000000000000 - 1024) * unitsInOne) 1
  := by decide +kernel

/-- The empty span comes to no second, and no second to the empty span. -/
theorem toSeconds_zero :
  zero.toSeconds = .finite false .zero ∧ ofSeconds? (.finite false .zero) = some zero
  := by decide +kernel

/-! ### From spans to seconds -/

/-- A whole number of seconds that is not too long is rounded once, and is still not too long. -/
theorem ofNat_eq (hn : n ≤ 0x10000000000000000) :
  ∃ m, Binary64.ofNat n = .finite false m ∧ m.rank = nearestRank (n * unitsInOne) 1
    ∧ m.rank ≤ rankTooLong
  := by
  have hle : n * unitsInOne ≤ 1 * unitsOfRank rankTooLong := by
    rw [units_around_tooLong.2.1, Nat.one_mul]
    exact Nat.mul_le_mul_right _ hn
  rw [Binary64.ofNat, ofRatio, ofUnits_of_le (m := ⟨rankTooLong, by decide⟩) false (by decide) hle]
  exact ⟨_, rfl, rfl, nearestRank_le (by decide) hle⟩

theorem one_le_nearestRank (hn : n ≠ 0) :
  rankOfOne ≤ nearestRank (n * unitsInOne) 1
  := by
  apply le_nearestRank (by decide)
  rw [units_one, Nat.one_mul]
  exact Nat.le_mul_of_pos_left _ (Nat.pos_of_ne_zero hn)

/-- The fraction of a span is at most one second, and noticeable if there is one. -/
theorem ofNat_div_eq (hn : n ≤ 1000000000) :
  ∃ m, Binary64.ofNat n / Binary64.ofNat 1000000000 = .finite false m ∧ m.rank ≤ rankOfOne
    ∧ (n ≠ 0 → rankNoticeable ≤ m.rank)
  := by
  obtain ⟨f, hf, hrank, -⟩ := ofNat_eq (show n ≤ 0x10000000000000000 by omega)
  let billion : Magnitude := ⟨0x41cdcd6500000000, by decide⟩
  obtain ⟨hbillion, hunits⟩ : Binary64.ofNat 1000000000 = .finite false billion
      ∧ billion.units = 1000000000 * unitsInOne := by
    decide +kernel
  have hpos : 0 < billion.units := by
    rw [hunits]
    exact Nat.mul_pos (by decide) unitsInOne_pos
  have hle : f.units * unitsInOne ≤ billion.units * unitsOfRank rankOfOne := by
    rw [units_one]
    apply Nat.mul_le_mul_right
    apply unitsOfRank_strictMono.monotone
    rw [hrank]
    apply nearestRank_le (by decide)
    change n * unitsInOne ≤ 1 * billion.units
    rw [hunits, Nat.one_mul]
    exact Nat.mul_le_mul_right _ hn
  rw [hf, hbillion, finite_div_finite f (by decide),
    ofUnits_of_le (m := ⟨rankOfOne, by decide⟩) false hpos hle]
  refine ⟨_, rfl, nearestRank_le hpos hle, ?_⟩
  intro hne
  have hone : unitsInOne ≤ f.units := by
    rw [← units_one]
    apply unitsOfRank_strictMono.monotone
    rw [hrank]
    exact one_le_nearestRank hne
  apply le_nearestRank hpos
  calc billion.units * unitsOfRank rankNoticeable
    _ = unitsInOne * (unitsOfRank rankNoticeable * 1000000000) := by
      rw [hunits]
      ring
    _ ≤ unitsInOne * unitsInOne := Nat.mul_le_mul_left _ units_noticeable.1
    _ ≤ f.units * unitsInOne := Nat.mul_le_mul_right _ hone

theorem seconds_lt (d : Duration) :
  d.seconds < 0x10000000000000000
  := by
  have := d.bounded
  rw [seconds]
  omega

theorem fraction_lt (d : Duration) :
  d.fraction < 1000000000
  := Nat.mod_lt _ (by decide)

/-- A span that is not empty has whole seconds or a fraction. -/
theorem seconds_ne_or_fraction_ne {d : Duration} (h : d ≠ zero) :
  d.seconds ≠ 0 ∨ d.fraction ≠ 0
  := by
  by_contra hzero
  apply h
  apply Duration.ext
  change d.nanoseconds = 0
  rw [seconds, fraction] at hzero
  omega

/-- The whole seconds are rounded to `2 ^ 64` exactly if they are at least half-way to it from the
double before. -/
theorem nearestRank_seconds :
  rankTooLong ≤ nearestRank (n * unitsInOne) 1 ↔ 0x10000000000000000 - 1024 ≤ n
  := by
  constructor
  · intro h
    by_contra hlt
    have hbefore := nearestRank_around_tooLong.1
    have hmono : nearestRank (n * unitsInOne) 1
        ≤ nearestRank ((0x10000000000000000 - 1025) * unitsInOne) 1 := by
      apply nearestRank_mono (by decide) (by decide)
      apply Nat.mul_le_mul_right
      apply Nat.mul_le_mul_right
      omega
    omega
  · intro h
    calc rankTooLong
      _ ≤ nearestRank ((0x10000000000000000 - 1024) * unitsInOne) 1 :=
        nearestRank_around_tooLong.2
      _ ≤ nearestRank (n * unitsInOne) 1 := by
        apply nearestRank_mono (by decide) (by decide)
        apply Nat.mul_le_mul_right
        exact Nat.mul_le_mul_right _ h

/-- A fraction changes nothing about that. -/
theorem nearestRank_seconds_add {w f : Magnitude} (hf : f.units ≤ unitsInOne) :
  rankTooLong ≤ nearestRank (w.units + f.units) 1 ↔ rankTooLong ≤ w.rank
  := by
  constructor
  · intro h
    by_contra hlt
    have hbefore := nearestRank_around_tooLong.1
    have hw : w.units ≤ unitsOfRank (rankTooLong - 1) := unitsOfRank_strictMono.monotone (by omega)
    have hmono : nearestRank (w.units + f.units) 1
        ≤ nearestRank ((0x10000000000000000 - 1025) * unitsInOne) 1 := by
      apply nearestRank_mono (by decide) (by decide)
      rw [units_around_tooLong.1] at hw
      omega
    omega
  · intro h
    exact le_nearestRank_add (.inl h)

/-- The number of seconds of a span is noticeable unless the span is empty, and too long for a span
exactly if that is what the whole seconds are rounded to. -/
theorem toSeconds_eq (d : Duration) :
  ∃ m, d.toSeconds = .finite false m
    ∧ (m.rank = 0 ↔ d = zero) ∧ (m.rank = 0 ∨ rankNoticeable ≤ m.rank)
    ∧ (rankTooLong ≤ m.rank ↔ 0x10000000000000000 - 1024 ≤ d.seconds)
  := by
  obtain rfl | hne := eq_or_ne d zero
  · exact ⟨.zero, toSeconds_zero.1, iff_of_true rfl rfl, .inl rfl, by decide⟩
  · obtain ⟨w, hw, hrank, hwle⟩ := ofNat_eq d.seconds_lt.le
    obtain ⟨f, hf, hfle, hnoticeable⟩ := ofNat_div_eq d.fraction_lt.le
    have hfone : f.units ≤ unitsInOne := by
      rw [← units_one]
      exact unitsOfRank_strictMono.monotone hfle
    have hsum : w.units + f.units ≤ 1 * unitsOfRank (rankTooLong + 1) := by
      obtain ⟨-, htooLong, hafter⟩ := units_around_tooLong
      have hwunits : w.units ≤ unitsOfRank rankTooLong := unitsOfRank_strictMono.monotone hwle
      omega
    rw [toSeconds, hw, hf, finite_add_finite,
      ofUnits_of_le (m := ⟨rankTooLong + 1, by decide⟩) false (by decide) hsum]
    have low : rankNoticeable ≤ nearestRank (w.units + f.units) 1 := by
      apply le_nearestRank_add
      obtain hseconds | hfraction := seconds_ne_or_fraction_ne hne
      · left
        rw [hrank]
        exact Nat.le_trans (by decide) (one_le_nearestRank hseconds)
      · exact .inr (hnoticeable hfraction)
    refine ⟨_, rfl, iff_of_false (ne_zero_of_noticeable low) hne, .inr low, ?_⟩
    dsimp only
    rw [nearestRank_seconds_add hfone, hrank, nearestRank_seconds]

/-! ### From seconds to spans -/

theorem ofSeconds?_finite (m : Magnitude) :
  ofSeconds? (.finite false m) = ofNanoseconds? (roundHalfEven (m.units * 1000000000) unitsInOne)
  := by
  rw [ofSeconds?, if_neg (by simp)]

theorem ofSeconds?_of_zero (h : m.rank = 0) :
  ofSeconds? (.finite false m) = some zero
  := by
  obtain rfl : m = .zero := by
    cases m
    cases h
    rfl
  exact toSeconds_zero.2

theorem ofSeconds?_of_tooLong (h : rankTooLong ≤ m.rank) :
  ofSeconds? (.finite false m) = none
  := by
  have hunits : unitsOfRank rankTooLong ≤ m.units := unitsOfRank_strictMono.monotone h
  rw [units_around_tooLong.2.1] at hunits
  obtain ⟨-, hhigh, -⟩ := roundHalfEven_between (m.units * 1000000000) unitsInOne_pos
  rw [ofSeconds?_finite, ofNanoseconds?]
  apply dif_neg
  intro hlt
  have := Nat.mul_le_mul_right unitsInOne (Nat.le_sub_one_of_lt hlt)
  have := unitsInOne_pos
  omega

/-- A number of seconds in between is a span that is not empty. -/
theorem ofSeconds?_of_between (low : rankNoticeable ≤ m.rank) (high : m.rank < rankTooLong) :
  ∃ d, ofSeconds? (.finite false m) = some d ∧ d ≠ zero
  := by
  have hlower : unitsOfRank rankNoticeable ≤ m.units := unitsOfRank_strictMono.monotone low
  have hnoticeable := units_noticeable.2
  have hupper : m.units ≤ unitsOfRank (rankTooLong - 1) :=
    unitsOfRank_strictMono.monotone (by omega)
  rw [units_around_tooLong.1] at hupper
  obtain ⟨hlow, hhigh, -⟩ := roundHalfEven_between (m.units * 1000000000) unitsInOne_pos
  rw [ofSeconds?_finite, ofNanoseconds?]
  generalize roundHalfEven (m.units * 1000000000) unitsInOne = q at hlow hhigh ⊢
  have hpos : q ≠ 0 := by
    rintro rfl
    omega
  have hlt : q < 0x10000000000000000 * 1000000000 := by
    by_contra hge
    have := Nat.mul_le_mul_right unitsInOne (Nat.le_of_not_lt hge)
    have := unitsInOne_pos
    omega
  rw [dif_pos hlt]
  exact ⟨_, rfl, fun h => hpos (congrArg nanoseconds h)⟩

/-- A noticeable number of seconds only vanishes if it is too long. -/
theorem getD_ofSeconds?_eq_zero_iff (h : m.rank = 0 ∨ rankNoticeable ≤ m.rank) :
  (ofSeconds? (.finite false m)).getD zero = zero ↔ m.rank = 0 ∨ rankTooLong ≤ m.rank
  := by
  obtain hzero | low := h
  · rw [ofSeconds?_of_zero hzero]
    exact iff_of_true rfl (.inl hzero)
  · by_cases high : rankTooLong ≤ m.rank
    · rw [ofSeconds?_of_tooLong high]
      exact iff_of_true rfl (.inr high)
    · obtain ⟨d, hd, hne⟩ := ofSeconds?_of_between low (Nat.lt_of_not_le high)
      rw [hd]
      exact iff_of_false hne (not_or.2 ⟨ne_zero_of_noticeable low, high⟩)

end Duration

end OrderDesk
