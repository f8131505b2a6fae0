import Mathlib.Algebra.Order.Field.Rat
import Mathlib.Data.Rat.Cast.Order
import Mathlib.Tactic.Linarith
import OrderDesk.Number.Shortest

/-!
# Decimal numbers that identify a double

The reals that round to a double lie between the points half-way to its neighbours.  Two doubles
have no such real in common, since of two neighbours only the one of even rank has the point
between them.  The decimal number chosen for a double always lies among its reals, so that its
value tells which double it was chosen for.
-/

namespace OrderDesk

/-- The value of a decimal number. -/
def Scientific.value (d : Scientific) : ℚ := d.coefficient * 10 ^ d.exponent

/-- The value is the quotient of the two whole numbers. -/
theorem Scientific.value_mul_denominator (d : Scientific) :
  d.value * d.denominator = d.numerator
  := by
  have hpow : (10 : ℚ) ^ d.exponent * (10 : ℚ) ^ (-d.exponent).toNat
      = (10 : ℚ) ^ d.exponent.toNat := by
    rw [← zpow_natCast, ← zpow_natCast, ← zpow_add₀ (by decide)]
    congr 1
    omega
  have hnumerator : (d.numerator : ℚ) = d.coefficient * (10 : ℚ) ^ d.exponent.toNat := by
    rw [numerator, Nat.cast_mul]
    congr 1
    exact Nat.cast_pow 10 _
  have hdenominator : (d.denominator : ℚ) = (10 : ℚ) ^ (-d.exponent).toNat := Nat.cast_pow 10 _
  rw [value, hnumerator, hdenominator, mul_assoc, hpow]

theorem Scientific.denominator_pos (d : Scientific) :
  (0 : ℚ) < d.denominator
  := by
  have hpos : 0 < d.denominator := Nat.pow_pos (by decide)
  exact_mod_cast hpos

namespace Magnitude

variable {x y : Magnitude} {d : Scientific} {v : ℚ}

/-! ### Units -/

/-- The doubles grow with their rank. -/
theorem unitsOfRank_lt_succ (rank : Nat) :
  unitsOfRank rank < unitsOfRank (rank + 1)
  := by
  obtain hsmall | heq | hlarge : rank + 1 < 0x10000000000000 ∨ rank + 1 = 0x10000000000000
      ∨ 0x10000000000000 ≤ rank := by omega
  · rw [unitsOfRank, unitsOfRank, if_pos (by omega), if_pos hsmall]
    omega
  · obtain rfl : rank = 0xfffffffffffff := by omega
    decide
  · rw [unitsOfRank, unitsOfRank, if_neg (by omega), if_neg (by omega)]
    -- a power of two is passed exactly when the remainder wraps around
    by_cases hwrap : rank % 0x10000000000000 + 1 = 0x10000000000000
    · have hmod : (rank + 1) % 0x10000000000000 = 0 := by omega
      have hdiv : (rank + 1) / 0x10000000000000 - 1 = rank / 0x10000000000000 - 1 + 1 := by omega
      have hpow : 0 < Nat.pow 2 (rank / 0x10000000000000 - 1) := Nat.pow_pos (by decide)
      have hsucc : Nat.pow 2 (rank / 0x10000000000000 - 1 + 1)
          = Nat.pow 2 (rank / 0x10000000000000 - 1) * 2 := rfl
      rw [hmod, hdiv, hsucc]
      generalize Nat.pow 2 (rank / 0x10000000000000 - 1) = power at hpow ⊢
      have hrank : rank % 0x10000000000000 = 0xfffffffffffff := by omega
      rw [hrank]
      omega
    · have hmod : (rank + 1) % 0x10000000000000 = rank % 0x10000000000000 + 1 := by omega
      have hdiv : (rank + 1) / 0x10000000000000 = rank / 0x10000000000000 := by omega
      rw [hmod, hdiv]
      apply Nat.mul_lt_mul_of_pos_right
      · omega
      · apply Nat.pow_pos
        decide

theorem unitsOfRank_strictMono :
  StrictMono unitsOfRank
  := strictMono_nat_of_lt_succ unitsOfRank_lt_succ

/-! ### The reals that round to a double -/

/-- Twice the lower end of the reals that round to a double, in units. -/
def low (x : Magnitude) : Nat := unitsOfRank (x.rank - 1) + x.units

/-- Twice the upper end of the reals that round to a double, in units. -/
def high (x : Magnitude) : Nat := x.units + unitsOfRank (x.rank + 1)

/-- Twice a real number, in units. -/
def twiceUnits (v : ℚ) : ℚ := v * (2 * unitsInOne : Nat)

/-- The real number rounds to the double. -/
def Rounds (x : Magnitude) (v : ℚ) : Prop :=
  if x.rank % 2 = 0 then x.low ≤ twiceUnits v ∧ twiceUnits v ≤ x.high
  else x.low < twiceUnits v ∧ twiceUnits v < x.high

/-- A decimal number that identifies a double has a value that rounds to it. -/
theorem Identifies.rounds (h : x.Identifies d) :
  x.Rounds d.value
  := by
  have hpos := d.denominator_pos
  have hvalue : ((d.numerator * (2 * unitsInOne) : Nat) : ℚ)
      = twiceUnits d.value * d.denominator := by
    rw [twiceUnits, Nat.cast_mul, ← d.value_mul_denominator, mul_right_comm]
  have hle (n : Nat) : n * d.denominator ≤ d.numerator * (2 * unitsInOne)
      ↔ (n : ℚ) ≤ twiceUnits d.value := by
    rw [← Nat.cast_le (α := ℚ), hvalue, Nat.cast_mul, mul_le_mul_iff_left₀ hpos]
  have hge (n : Nat) : d.numerator * (2 * unitsInOne) ≤ n * d.denominator
      ↔ twiceUnits d.value ≤ n := by
    rw [← Nat.cast_le (α := ℚ), hvalue, Nat.cast_mul, mul_le_mul_iff_left₀ hpos]
  rw [Identifies] at h
  rw [Rounds]
  split at h
  next heven =>
    rw [if_pos heven]
    exact ⟨(hle _).1 h.1, (hge _).1 h.2⟩
  next hodd =>
    rw [if_neg hodd]
    constructor
    · apply lt_of_not_ge
      intro hv
      exact absurd ((hge _).2 hv) (Nat.not_le.2 h.1)
    · apply lt_of_not_ge
      intro hv
      exact absurd ((hle _).2 hv) (Nat.not_le.2 h.2)

theorem Rounds.between (h : x.Rounds v) :
  x.low ≤ twiceUnits v ∧ twiceUnits v ≤ x.high
  := by
  rw [Rounds] at h
  split at h
  · exact h
  · exact ⟨h.1.le, h.2.le⟩

/-- A double of odd rank does not have the ends. -/
theorem Rounds.inside (h : x.Rounds v) (hodd : x.rank % 2 ≠ 0) :
  x.low < twiceUnits v ∧ twiceUnits v < x.high
  := by
  rw [Rounds, if_neg hodd] at h
  exact h

/-- No real rounds to two doubles. -/
theorem Rounds.not_lt (hx : x.Rounds v) (hy : y.Rounds v) :
  ¬x.rank < y.rank
  := by
  intro hlt
  have hle : y.low ≤ x.high := by
    have := hy.between.1.trans hx.between.2
    exact_mod_cast this
  have hsucc : unitsOfRank (x.rank + 1) ≤ y.units := unitsOfRank_strictMono.monotone hlt
  have hpred : x.units ≤ unitsOfRank (y.rank - 1) :=
    unitsOfRank_strictMono.monotone (by omega)
  rw [low, high] at hle
  -- the ends can only meet between neighbours, and one of two neighbours does without them
  have hnext : x.rank + 1 = y.rank := by
    apply unitsOfRank_strictMono.injective
    change _ = y.units
    omega
  by_cases hodd : x.rank % 2 = 0
  · have hinside := (hy.inside (by omega)).1.trans_le hx.between.2
    have : y.low < x.high := by exact_mod_cast hinside
    rw [low, high] at this
    omega
  · have hinside := hy.between.1.trans_lt (hx.inside hodd).2
    have : y.low < x.high := by exact_mod_cast hinside
    rw [low, high] at this
    omega

/-- A real rounds to one double only. -/
theorem Rounds.unique (hx : x.Rounds v) (hy : y.Rounds v) :
  x = y
  := by
  obtain ⟨m, hm⟩ := x
  obtain ⟨n, hn⟩ := y
  have hmn : ¬m < n := hx.not_lt hy
  have hnm : ¬n < m := hy.not_lt hx
  obtain rfl : m = n := by omega
  rfl

/-! ### The decimal number chosen for a double -/

/-- The exact decimal value of a double lies strictly between the ends. -/
theorem identifies_exactDecimal (h : x.rank ≠ 0) :
  x.Identifies x.exactDecimal
  := by
  have hlow : x.low < 2 * x.units := by
    have hpred : unitsOfRank (x.rank - 1) < x.units := unitsOfRank_strictMono (by omega)
    rw [low]
    omega
  have hhigh : 2 * x.units < x.high := by
    have hsucc : x.units < unitsOfRank (x.rank + 1) := unitsOfRank_strictMono (by omega)
    rw [high]
    omega
  have hdenominator : x.exactDecimal.denominator = Nat.pow 5 unitExponent * unitsInOne := by
    have hexponent : (-x.exactDecimal.exponent).toNat = unitExponent := by
      rw [exactDecimal, Int.neg_neg, Int.toNat_natCast]
    rw [Scientific.denominator, hexponent]
    unfold unitsInOne
    -- a power of a variable, since no step may evaluate this one
    generalize unitExponent = n
    exact Nat.mul_pow 5 2 n
  have hpos : 0 < x.exactDecimal.denominator := Nat.pow_pos (by decide)
  have hvalue : x.exactDecimal.numerator * (2 * unitsInOne)
      = 2 * x.units * x.exactDecimal.denominator := by
    have hexponent : x.exactDecimal.exponent.toNat = 0 := by
      rw [exactDecimal, Int.toNat_neg_natCast]
    have hnumerator : x.exactDecimal.numerator = x.units * Nat.pow 5 unitExponent := by
      rw [Scientific.numerator, hexponent]
      exact Nat.mul_one _
    rw [hnumerator, hdenominator]
    generalize Nat.pow 5 unitExponent = five
    generalize unitsInOne = two
    ac_rfl
  have hinside : x.low * x.exactDecimal.denominator
        < x.exactDecimal.numerator * (2 * unitsInOne)
      ∧ x.exactDecimal.numerator * (2 * unitsInOne)
        < x.high * x.exactDecimal.denominator := by
    rw [hvalue]
    exact ⟨Nat.mul_lt_mul_of_pos_right hlow hpos, Nat.mul_lt_mul_of_pos_right hhigh hpos⟩
  rw [Identifies]
  split
  · exact ⟨hinside.1.le, hinside.2.le⟩
  · exact hinside

theorem identifies_shortest (x : Magnitude) (half : HalfWay) :
  x.Identifies (x.shortest half)
  := by
  rw [shortest]
  split
  next hzero =>
    have hunits : x.units = 0 := by rw [units, hzero]; rfl
    have hnumerator : Scientific.numerator ⟨0, 0⟩ = 0 := rfl
    rw [Identifies, if_pos (by omega), hunits, hzero, hnumerator, Nat.zero_mul]
    exact ⟨Nat.le_refl 0, Nat.zero_le _⟩
  next hpos =>
    generalize ((List.range 17).flatMap fun n => x.neighbours half (n + 1)) = candidates
    dsimp only
    rcases hfind : candidates.find? fun d => decide (x.Identifies d) with _ | d
    · apply identifies_exactDecimal hpos
    · have found := List.find?_some hfind
      exact of_decide_eq_true found

/-- The value of the decimal number chosen for a double tells the double. -/
theorem shortest_value_inj {half : HalfWay}
    (h : (x.shortest half).value = (y.shortest half).value) :
  x = y
  := by
  have hx := (x.identifies_shortest half).rounds
  rw [h] at hx
  apply hx.unique (y.identifies_shortest half).rounds

end Magnitude

end OrderDesk
