import Mathlib.Tactic.Ring
import OrderDesk.Proofs.Number.Interval

/-!
# Rounding to the nearest double

A number of units is rounded to the rank between whose half-way points it lies, a half-way point
itself belonging to its neighbour of even rank.  There is just one such rank, and it grows with the
number.  So whatever is above or below a double stays there when it is rounded, and results that are
exact but for one rounding can be compared without being evaluated.
-/

namespace OrderDesk

open Magnitude (unitsOfRank unitsOfRank_strictMono unitsInOne)

/-! ### Whole numbers -/

/-- The rounded quotient is at most half of the divisor away, and it is even if it is as far away. -/
theorem roundHalfEven_between (a : Nat) {d : Nat} (hd : 0 < d) :
  let q := roundHalfEven a d
  2 * (q * d) ≤ 2 * a + d ∧ 2 * a ≤ 2 * (q * d) + d
    ∧ (2 * (q * d) = 2 * a + d ∨ 2 * a = 2 * (q * d) + d → q % 2 = 0)
  := by
  have hdiv : a = a / d * d + a % d := by rw [Nat.mul_comm, Nat.div_add_mod]
  have hmod : a % d < d := Nat.mod_lt a hd
  have hsucc : (a / d + 1) * d = a / d * d + d := Nat.succ_mul _ _
  intro q
  have hq : q = if 2 * (a % d) < d then a / d
      else if d < 2 * (a % d) then a / d + 1 else a / d + a / d % 2 := rfl
  split at hq
  · rw [hq]
    omega
  · split at hq
    · rw [hq, hsucc]
      omega
    · obtain heven | hodd := Nat.mod_two_eq_zero_or_one (a / d)
      · rw [hq, heven, Nat.add_zero]
        omega
      · rw [hq, hodd, hsucc]
        omega

/-! ### Ranks -/

/-- The number `a / d` of units lies between the half-way points next to a rank, and if it is one of
these, the rank is even. -/
structure Nearest (a d rank : Nat) : Prop where
  low : d * (unitsOfRank (rank - 1) + unitsOfRank rank) ≤ 2 * a
  high : 2 * a ≤ d * (unitsOfRank rank + unitsOfRank (rank + 1))
  even : 2 * a = d * (unitsOfRank (rank - 1) + unitsOfRank rank)
    ∨ 2 * a = d * (unitsOfRank rank + unitsOfRank (rank + 1)) → rank % 2 = 0

variable {a b d e rank rank' : Nat}

/-- A greater number has a greater rank. -/
theorem Nearest.mono (h : Nearest a d rank) (h' : Nearest b e rank') (hd : 0 < d) (he : 0 < e)
    (hle : a * e ≤ b * d) :
  rank ≤ rank'
  := by
  by_contra hlt
  have hpred : unitsOfRank rank' ≤ unitsOfRank (rank - 1) :=
    unitsOfRank_strictMono.monotone (by omega)
  have hsucc : unitsOfRank (rank' + 1) ≤ unitsOfRank rank :=
    unitsOfRank_strictMono.monotone (by omega)
  -- the half-way point above the smaller rank is at most that below the greater one
  have hmid := Nat.mul_le_mul_left (d * e) (Nat.add_le_add hpred hsucc)
  have hlow : d * e * (unitsOfRank (rank - 1) + unitsOfRank rank) ≤ 2 * (a * e) := by
    calc d * e * (unitsOfRank (rank - 1) + unitsOfRank rank)
      _ = d * (unitsOfRank (rank - 1) + unitsOfRank rank) * e := by ring
      _ ≤ 2 * a * e := Nat.mul_le_mul_right e h.low
      _ = 2 * (a * e) := by ring
  have hhigh : 2 * (b * d) ≤ d * e * (unitsOfRank rank' + unitsOfRank (rank' + 1)) := by
    calc 2 * (b * d)
      _ = 2 * b * d := by ring
      _ ≤ e * (unitsOfRank rank' + unitsOfRank (rank' + 1)) * d := Nat.mul_le_mul_right d h'.high
      _ = d * e * (unitsOfRank rank' + unitsOfRank (rank' + 1)) := by ring
  -- so that both numbers are this point, and both ranks are even
  have hpoint : unitsOfRank rank' + unitsOfRank (rank' + 1)
      = unitsOfRank (rank - 1) + unitsOfRank rank :=
    Nat.eq_of_mul_eq_mul_left (Nat.mul_pos hd he) (by omega)
  have hnext : rank' + 1 = rank := unitsOfRank_strictMono.injective (by omega)
  have heven : rank % 2 = 0 := by
    apply h.even
    left
    apply Nat.eq_of_mul_eq_mul_right he
    calc 2 * a * e
      _ = d * e * (unitsOfRank (rank - 1) + unitsOfRank rank) := by
        rw [Nat.mul_assoc]
        omega
      _ = d * (unitsOfRank (rank - 1) + unitsOfRank rank) * e := by ring
  have heven' : rank' % 2 = 0 := by
    apply h'.even
    right
    apply Nat.eq_of_mul_eq_mul_right hd
    calc 2 * b * d
      _ = d * e * (unitsOfRank rank' + unitsOfRank (rank' + 1)) := by
        rw [Nat.mul_assoc]
        omega
      _ = e * (unitsOfRank rank' + unitsOfRank (rank' + 1)) * d := by ring
  omega

/-- A double is nearest to itself. -/
theorem nearest_units (rank : Nat) (hd : 0 < d) :
  Nearest (d * unitsOfRank rank) d rank
  := by
  have hpred : unitsOfRank (rank - 1) ≤ unitsOfRank rank :=
    unitsOfRank_strictMono.monotone (by omega)
  have hsucc : unitsOfRank rank < unitsOfRank (rank + 1) := unitsOfRank_strictMono (by omega)
  have htwice : 2 * (d * unitsOfRank rank) = d * (unitsOfRank rank + unitsOfRank rank) := by ring
  constructor
  · rw [htwice]
    exact Nat.mul_le_mul_left d (by omega)
  · rw [htwice]
    exact Nat.mul_le_mul_left d (by omega)
  · rw [htwice, Nat.mul_right_inj hd.ne', Nat.mul_right_inj hd.ne']
    rintro (h | h)
    · have hzero : rank - 1 = rank := unitsOfRank_strictMono.injective (by omega)
      omega
    · omega

namespace Binary64

/-! ### The nearest rank -/

theorem pow_two_add_52 (p : Nat) :
  Nat.pow 2 (p + 52) = 0x10000000000000 * Nat.pow 2 p
  := by
  calc Nat.pow 2 (p + 52)
    _ = Nat.pow 2 p * Nat.pow 2 52 := Nat.pow_add 2 p 52
    _ = 0x10000000000000 * Nat.pow 2 p := Nat.mul_comm _ _

theorem pow_two_add_53 (p : Nat) :
  Nat.pow 2 (p + 53) = 0x20000000000000 * Nat.pow 2 p
  := by
  calc Nat.pow 2 (p + 53)
    _ = Nat.pow 2 p * Nat.pow 2 53 := Nat.pow_add 2 p 53
    _ = 0x20000000000000 * Nat.pow 2 p := Nat.mul_comm _ _

/-- A number has fewer than `2 ^ 53` gaps, but at least half as many unless its gap is the least
one. -/
theorem gapExponent_between (a : Nat) (hd : 0 < d) :
  a < d * (0x20000000000000 * Nat.pow 2 (gapExponent a d))
    ∧ (gapExponent a d = 0 ∨ d * (0x10000000000000 * Nat.pow 2 (gapExponent a d)) ≤ a)
  := by
  rw [← pow_two_add_52, ← pow_two_add_53]
  have hdlt : d < Nat.pow 2 (d.log2 + 1) := Nat.lt_log2_self
  have hdle : Nat.pow 2 d.log2 ≤ d := Nat.log2_self_le hd.ne'
  rw [gapExponent]
  split
  next small =>
    obtain ⟨hpos, hlt⟩ := small
    have hne : a ≠ 0 := by
      rintro rfl
      exact absurd hpos (by simp)
    constructor
    · rw [show a.log2 - (d.log2 + 52) - 1 + 53 = a.log2 - (d.log2 + 52) + 52 by omega]
      exact hlt
    · right
      calc d * Nat.pow 2 (a.log2 - (d.log2 + 52) - 1 + 52)
        _ ≤ Nat.pow 2 (d.log2 + 1) * Nat.pow 2 (a.log2 - (d.log2 + 52) - 1 + 52) :=
          Nat.mul_le_mul_right _ hdlt.le
        _ = Nat.pow 2 (d.log2 + 1 + (a.log2 - (d.log2 + 52) - 1 + 52)) := (Nat.pow_add 2 _ _).symm
        _ = Nat.pow 2 a.log2 := by
          congr 1
          omega
        _ ≤ a := Nat.log2_self_le hne
  next large =>
    constructor
    · calc a
        _ < Nat.pow 2 (a.log2 + 1) := Nat.lt_log2_self
        _ ≤ Nat.pow 2 (d.log2 + (a.log2 - (d.log2 + 52) + 53)) :=
          Nat.pow_le_pow_right (by decide) (by omega)
        _ = Nat.pow 2 d.log2 * Nat.pow 2 (a.log2 - (d.log2 + 52) + 53) := Nat.pow_add 2 _ _
        _ ≤ d * Nat.pow 2 (a.log2 - (d.log2 + 52) + 53) := Nat.mul_le_mul_right _ hdle
    · by_cases hzero : a.log2 - (d.log2 + 52) = 0
      · exact .inl hzero
      · right
        apply Nat.le_of_not_lt
        intro small
        exact large ⟨by omega, small⟩

/-- The value of a rank that is given by the exponent of its gap and a number of gaps. -/
theorem unitsOfRank_gaps {p q : Nat} (normal : p = 0 ∨ 0x10000000000000 ≤ q)
    (hq : q ≤ 0x20000000000000) :
  unitsOfRank (p * 0x10000000000000 + q) = q * Nat.pow 2 p
  := by
  rw [unitsOfRank]
  split
  next small =>
    obtain rfl : p = 0 := by omega
    rw [Nat.zero_mul, Nat.zero_add]
    exact (Nat.mul_one q).symm
  next large =>
    obtain hlt | rfl : q < 0x20000000000000 ∨ q = 0x20000000000000 := by omega
    · rw [show 0x10000000000000 + (p * 0x10000000000000 + q) % 0x10000000000000 = q by omega,
        show (p * 0x10000000000000 + q) / 0x10000000000000 - 1 = p by omega]
    · rw [show 0x10000000000000 + (p * 0x10000000000000 + 0x20000000000000) % 0x10000000000000
          = 0x10000000000000 by omega,
        show (p * 0x10000000000000 + 0x20000000000000) / 0x10000000000000 - 1 = p + 1 by omega]
      change 0x10000000000000 * (Nat.pow 2 p * 2) = _
      omega

section Gaps

/-! A number that has been rounded to `q` gaps of `2 ^ p` units. -/

variable {p q : Nat} (normal : p = 0 ∨ 0x10000000000000 ≤ q) (hq : q ≤ 0x20000000000000)

theorem mul_gaps (d p q : Nat) :
  d * (q * Nat.pow 2 p) = q * (d * Nat.pow 2 p)
  := Nat.mul_left_comm _ _ _

include normal hq

/-- The number is not below the lower half-way point. -/
theorem halfway_below (hd : 0 < d) (hnormal : p = 0 ∨ 0x10000000000000 * (d * Nat.pow 2 p) ≤ a)
    (hlow : 2 * (q * (d * Nat.pow 2 p)) ≤ 2 * a + d * Nat.pow 2 p)
    (heven : 2 * (q * (d * Nat.pow 2 p)) = 2 * a + d * Nat.pow 2 p → q % 2 = 0) :
  let rank := p * 0x10000000000000 + q
  d * (unitsOfRank (rank - 1) + unitsOfRank rank) ≤ 2 * a
    ∧ (2 * a = d * (unitsOfRank (rank - 1) + unitsOfRank rank) → q % 2 = 0)
  := by
  dsimp only
  rw [unitsOfRank_gaps normal hq, Nat.mul_add, mul_gaps]
  cases q with
  | zero =>
    obtain rfl : p = 0 := by omega
    have hzero : unitsOfRank (0 * 0x10000000000000 + 0 - 1) = 0 := by decide
    rw [hzero]
    omega
  | succ n =>
    rw [← Nat.add_assoc, Nat.add_sub_cancel]
    by_cases hsame : p = 0 ∨ 0x10000000000000 ≤ n
    · have hsucc : (n + 1) * (d * Nat.pow 2 p) = n * (d * Nat.pow 2 p) + d * Nat.pow 2 p :=
        Nat.succ_mul _ _
      rw [unitsOfRank_gaps hsame (by omega), mul_gaps]
      omega
    · -- a power of two, whose lower neighbour is nearer than the upper one
      have hlt : unitsOfRank (p * 0x10000000000000 + n)
          < unitsOfRank (p * 0x10000000000000 + (n + 1)) := unitsOfRank_strictMono (by omega)
      have := Nat.mul_lt_mul_of_pos_left hlt hd
      rw [unitsOfRank_gaps normal hq, mul_gaps] at this
      obtain rfl : n = 0xfffffffffffff := by omega
      omega

/-- The number is not above the upper half-way point. -/
theorem halfway_above (hd : 0 < d) (hlt : a < 0x20000000000000 * (d * Nat.pow 2 p))
    (hhigh : 2 * a ≤ 2 * (q * (d * Nat.pow 2 p)) + d * Nat.pow 2 p)
    (heven : 2 * a = 2 * (q * (d * Nat.pow 2 p)) + d * Nat.pow 2 p → q % 2 = 0) :
  let rank := p * 0x10000000000000 + q
  2 * a ≤ d * (unitsOfRank rank + unitsOfRank (rank + 1))
    ∧ (2 * a = d * (unitsOfRank rank + unitsOfRank (rank + 1)) → q % 2 = 0)
  := by
  dsimp only
  by_cases hlast : q = 0x20000000000000
  · have hsucc : unitsOfRank (p * 0x10000000000000 + q)
        < unitsOfRank (p * 0x10000000000000 + q + 1) := unitsOfRank_strictMono (by omega)
    have := Nat.mul_lt_mul_of_pos_left hsucc hd
    rw [unitsOfRank_gaps normal hq, mul_gaps, hlast] at this
    rw [unitsOfRank_gaps normal hq, Nat.mul_add, mul_gaps, hlast]
    omega
  · have hsucc : (q + 1) * (d * Nat.pow 2 p) = q * (d * Nat.pow 2 p) + d * Nat.pow 2 p :=
      Nat.succ_mul _ _
    rw [Nat.add_assoc, unitsOfRank_gaps normal hq, unitsOfRank_gaps (by omega) (by omega),
      Nat.mul_add, mul_gaps d p q, mul_gaps d p (q + 1)]
    omega

end Gaps

/-- The rank of a rounded number is nearest to the number. -/
theorem nearest_nearestRank (a : Nat) (hd : 0 < d) :
  Nearest a d (nearestRank a d)
  := by
  obtain ⟨hlt, hnormal⟩ := gapExponent_between a hd
  rw [nearestRank]
  generalize gapExponent a d = p at hlt hnormal ⊢
  have hpow : 0 < d * Nat.pow 2 p := Nat.mul_pos hd (Nat.pow_pos (by decide))
  rw [mul_gaps] at hlt hnormal
  obtain ⟨hlow, hhigh, heven⟩ := roundHalfEven_between a hpow
  generalize roundHalfEven a (d * Nat.pow 2 p) = q at hlow hhigh heven ⊢
  have hq : q ≤ 0x20000000000000 := by
    by_contra hq
    have := Nat.mul_le_mul_right (d * Nat.pow 2 p) (Nat.succ_le_of_lt (Nat.lt_of_not_le hq))
    omega
  have normal : p = 0 ∨ 0x10000000000000 ≤ q := by
    obtain hzero | hle := hnormal
    · exact .inl hzero
    · right
      by_contra hq
      have : q * (d * Nat.pow 2 p) ≤ 0xfffffffffffff * (d * Nat.pow 2 p) :=
        Nat.mul_le_mul_right _ (by omega)
      omega
  obtain ⟨low, hbelow⟩ := halfway_below normal hq hd hnormal hlow fun h => heven (.inl h)
  obtain ⟨high, habove⟩ := halfway_above normal hq hd hlt hhigh fun h => heven (.inr h)
  refine ⟨low, high, ?_⟩
  rintro (h | h)
  · have := hbelow h
    omega
  · have := habove h
    omega

/-- Rounding does not change which of two numbers is the greater one. -/
theorem nearestRank_mono (hd : 0 < d) (he : 0 < e) (h : a * e ≤ b * d) :
  nearestRank a d ≤ nearestRank b e
  := (nearest_nearestRank a hd).mono (nearest_nearestRank b he) hd he h

/-- A number that is at least a double is so after it is rounded. -/
theorem le_nearestRank (hd : 0 < d) (h : d * unitsOfRank rank ≤ a) :
  rank ≤ nearestRank a d
  := (nearest_units rank hd).mono (nearest_nearestRank a hd) hd hd (Nat.mul_le_mul_right d h)

/-- A number that is at most a double is so after it is rounded. -/
theorem nearestRank_le (hd : 0 < d) (h : a ≤ d * unitsOfRank rank) :
  nearestRank a d ≤ rank
  := (nearest_nearestRank a hd).mono (nearest_units rank hd) hd hd (Nat.mul_le_mul_right d h)

end Binary64

end OrderDesk
