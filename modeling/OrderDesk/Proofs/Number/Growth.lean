import OrderDesk.Proofs.Number.Nearest

/-!
# Operations that do not make doubles smaller

A sum is at least as great as either of two non-negative numbers, and a product of a number with a
factor of at least one is at least as great as the number, although both are rounded and may be
infinite.  The powers of such a factor are then at least one.
-/

namespace OrderDesk

open Magnitude (unitsOfRank unitsOfRank_strictMono unitsInOne)

namespace Binary64

variable {a d rank : Nat} {x y : Binary64} {m n : Magnitude}

/-- The rank of one. -/
def rankOfOne : Nat := 0x3ff0000000000000

theorem unitsInOne_pos :
  0 < unitsInOne
  := by
  unfold unitsInOne
  generalize Magnitude.unitExponent = n
  exact Nat.pow_pos (by decide)

theorem units_one :
  unitsOfRank rankOfOne = unitsInOne
  := by decide +kernel

theorem one_eq :
  (1 : Binary64) = .finite false ⟨rankOfOne, by decide⟩
  := by decide +kernel

/-- The double is a non-negative number of at least some rank, or positive infinity. -/
def AtLeast (rank : Nat) (x : Binary64) : Prop :=
  x = .infinite false ∨ ∃ m, x = .finite false m ∧ rank ≤ m.rank

/-- A positive double is at most those that are at least as great. -/
theorem finite_le_iff (hm : m.rank ≠ 0) :
  (Binary64.finite false m).le x = true ↔ x.AtLeast m.rank
  := by
  have hbound := m.rank_lt
  cases x with
  | nan => simp [le, position?, AtLeast]
  | infinite negative =>
    cases negative with
    | false =>
      simp [le, position?, AtLeast]
      omega
    | true =>
      simp [le, position?, AtLeast]
      omega
  | finite negative n =>
    cases negative with
    | false => simp [le, position?, AtLeast]
    | true =>
      simp [le, position?, AtLeast]
      omega

theorem finite_lt_finite (m n : Magnitude) :
  (Binary64.finite false m).lt (.finite false n) = decide (m.rank < n.rank)
  := by
  simp [lt, position?]

/-- The smaller one of two non-negative doubles has the smaller rank. -/
theorem minimum_finite (m n : Magnitude) :
  ∃ l, (Binary64.finite false m).minimum (.finite false n) = .finite false l
    ∧ l.rank = min m.rank n.rank
  := by
  rw [minimum, if_neg nofun, finite_lt_finite]
  by_cases hlt : n.rank < m.rank
  · rw [if_pos (decide_eq_true hlt)]
    exact ⟨n, rfl, (Nat.min_eq_right hlt.le).symm⟩
  · rw [if_neg (by simp [hlt])]
    exact ⟨m, rfl, (Nat.min_eq_left (Nat.le_of_not_lt hlt)).symm⟩

/-- A number of units that is at most a double is rounded to a double. -/
theorem ofUnits_of_le (negative : Bool) (hd : 0 < d) (h : a ≤ d * m.units) :
  ofUnits negative a d
    = .finite negative ⟨nearestRank a d, Nat.lt_of_le_of_lt (nearestRank_le hd h) m.rank_lt⟩
  := dif_pos _

theorem ofUnits_zero (negative : Bool) (hd : 0 < d) :
  ofUnits negative 0 d = .finite negative .zero
  := by
  have hrank : nearestRank 0 d = 0 := Nat.le_zero.1 (nearestRank_le hd (Nat.zero_le _))
  rw [ofUnits_of_le (m := .zero) negative hd (Nat.zero_le _)]
  congr

theorem atLeast_ofUnits (hd : 0 < d) (h : d * unitsOfRank rank ≤ a) :
  (ofUnits false a d).AtLeast rank
  := by
  rw [ofUnits]
  split
  · exact .inr ⟨_, rfl, le_nearestRank hd h⟩
  · exact .inl rfl

theorem finite_mul_finite (m n : Magnitude) :
  Binary64.finite false m * Binary64.finite false n = ofUnits false (m.units * n.units) unitsInOne
  := by
  change mul (.finite false m) (.finite false n) = _
  rw [mul, bne_self_eq_false]

theorem finite_div_finite (m : Magnitude) (hn : n.rank ≠ 0) :
  Binary64.finite false m / Binary64.finite false n = ofUnits false (m.units * unitsInOne) n.units
  := by
  change div (.finite false m) (.finite false n) = _
  rw [div, if_neg hn, bne_self_eq_false]

/-- A factor of at least one does not make a positive number smaller. -/
theorem AtLeast.mul (hx : x.AtLeast rank) (hy : y.AtLeast rankOfOne) (hrank : rank ≠ 0) :
  (x * y).AtLeast rank
  := by
  obtain rfl | ⟨m, rfl, hm⟩ := hx
  · obtain rfl | ⟨n, rfl, hn⟩ := hy
    · exact .inl rfl
    · have hne : n.rank ≠ 0 := by
        rw [rankOfOne] at hn
        omega
      exact .inl (if_neg hne)
  · obtain rfl | ⟨n, rfl, hn⟩ := hy
    · exact .inl (if_neg (by omega))
    · rw [finite_mul_finite]
      apply atLeast_ofUnits unitsInOne_pos
      rw [← units_one, Nat.mul_comm]
      exact Nat.mul_le_mul (unitsOfRank_strictMono.monotone hm) (unitsOfRank_strictMono.monotone hn)

theorem AtLeast.powWithin (hx : x.AtLeast rankOfOne) (hy : y.AtLeast rankOfOne) (width n : Nat) :
  (powWithin width y x n).AtLeast rankOfOne
  := by
  have hone : rankOfOne ≠ 0 := by decide
  induction width generalizing x y n with
  | zero => exact hy
  | succ width ih =>
    rw [Binary64.powWithin]
    apply ih (hx.mul hx hone)
    split
    · exact hy.mul hx hone
    · exact hy

/-- The powers of a factor of at least one are at least one. -/
theorem AtLeast.pow (hx : x.AtLeast rankOfOne) (n : Nat) :
  (x ^ n).AtLeast rankOfOne
  := by
  apply hx.powWithin
  rw [one_eq]
  exact .inr ⟨_, rfl, Nat.le_refl _⟩

theorem finite_add_finite (m n : Magnitude) :
  Binary64.finite false m + Binary64.finite false n = ofUnits false (m.units + n.units) 1
  := by
  change (if (m.units : Int) + n.units = 0 then Binary64.finite false .zero
    else ofUnits (decide ((m.units : Int) + n.units < 0)) ((m.units : Int) + n.units).natAbs 1) = _
  have hsign : ¬(m.units : Int) + n.units < 0 := by omega
  have habs : ((m.units : Int) + n.units).natAbs = m.units + n.units := by omega
  split
  next hzero =>
    rw [show m.units + n.units = 0 by omega, ofUnits_zero false (by decide)]
  next =>
    rw [decide_eq_false hsign, habs]

/-- A sum of non-negative doubles is at least as great as each of them. -/
theorem le_nearestRank_add (h : rank ≤ m.rank ∨ rank ≤ n.rank) :
  rank ≤ nearestRank (m.units + n.units) 1
  := by
  apply le_nearestRank (by decide)
  rw [Nat.one_mul]
  obtain h | h := h
  · exact Nat.le_add_right_of_le (unitsOfRank_strictMono.monotone h)
  · exact Nat.le_add_left_of_le (unitsOfRank_strictMono.monotone h)

theorem zero_mul_finite (n : Magnitude) :
  zero * Binary64.finite false n = zero
  := by
  have hunits : Magnitude.zero.units = 0 := by decide
  rw [zero, finite_mul_finite, hunits, Nat.zero_mul, ofUnits_zero false unitsInOne_pos]

end Binary64

end OrderDesk
