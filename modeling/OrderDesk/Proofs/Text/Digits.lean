/-!
# Digits at the front of a text

A run of digits ends where something else begins, so a text says how it divides into the digits
at its front and what follows them; and the digits of a number say which number it is.  Digits are
those of the number they stand for, with zeros in front of them.
-/

namespace OrderDesk

namespace Digits

variable {xs ys rest rest' : List Char}

/-- Every character is a digit. -/
def AllDigits (cs : List Char) : Prop := ∀ c ∈ cs, c.isDigit = true

/-- The text does not begin with a digit. -/
def Halts (cs : List Char) : Prop := ∀ c ∈ cs.head?, c.isDigit = false

theorem halts_nil :
  Halts []
  := nofun

theorem halts_cons {c : Char} (h : c.isDigit = false) (cs : List Char) :
  Halts (c :: cs)
  := by
  rintro _ ⟨⟩
  exact h

theorem allDigits_toDigits (n : Nat) :
  AllDigits (Nat.toDigits 10 n)
  := by
  intro c hc
  apply Nat.isDigit_of_mem_toDigits _ _ hc
  · decide
  · decide

theorem allDigits_replicate (n : Nat) :
  AllDigits (List.replicate n '0')
  := by
  intro c hc
  rw [List.eq_of_mem_replicate hc]
  rfl

theorem AllDigits.append (hx : AllDigits xs) (hy : AllDigits ys) :
  AllDigits (xs ++ ys)
  := by
  intro c hc
  obtain hc | hc := List.mem_append.1 hc
  · apply hx c hc
  · apply hy c hc

theorem AllDigits.take (hx : AllDigits xs) (n : Nat) :
  AllDigits (xs.take n)
  := fun c hc => hx c (List.mem_of_mem_take hc)

theorem AllDigits.drop (hx : AllDigits xs) (n : Nat) :
  AllDigits (xs.drop n)
  := fun c hc => hx c (List.mem_of_mem_drop hc)

theorem AllDigits.reverse (hx : AllDigits xs) :
  AllDigits xs.reverse
  := fun c hc => hx c (List.mem_reverse.1 hc)

/-- A text with digits in front does not halt. -/
theorem AllDigits.not_halts (hx : AllDigits xs) (hne : xs ≠ []) (rest : List Char) :
  ¬Halts (xs ++ rest)
  := by
  obtain ⟨c, cs, rfl⟩ := List.exists_cons_of_ne_nil hne
  intro h
  apply Bool.false_ne_true
  rw [← h c rfl, hx c List.mem_cons_self]

/-- The digits at the front of a text end where it halts. -/
theorem takeWhile_append (hx : AllDigits xs) (hr : Halts rest) :
  (xs ++ rest).takeWhile Char.isDigit = xs
  := by
  have hrest : rest.takeWhile Char.isDigit = [] := by
    cases rest with
    | nil => rfl
    | cons c cs =>
      apply List.takeWhile_cons_of_neg
      rw [hr c rfl]
      apply Bool.false_ne_true
  rw [List.takeWhile_append_of_pos hx, hrest, List.append_nil]

/-- A text divides in one way only into digits and what follows them. -/
theorem append_inj (hx : AllDigits xs) (hy : AllDigits ys) (hr : Halts rest) (hr' : Halts rest')
    (h : xs ++ rest = ys ++ rest') :
  xs = ys ∧ rest = rest'
  := by
  have hxy : xs = ys := by
    rw [← takeWhile_append hx hr, h, takeWhile_append hy hr']
  subst hxy
  exact ⟨rfl, List.append_cancel_left h⟩

theorem toDigits_inj {m n : Nat} :
  Nat.toDigits 10 m = Nat.toDigits 10 n ↔ m = n
  := by
  constructor
  · intro h
    rw [← @Nat.ofDigitChars_ten_toDigits m, h, Nat.ofDigitChars_ten_toDigits]
  · rintro rfl
    rfl

theorem toDigits_ne_nil (n : Nat) :
  Nat.toDigits 10 n ≠ []
  := List.ne_nil_of_length_pos Nat.length_toDigits_pos

/-- Zeros in front do not change the number. -/
theorem ofDigitChars_zeros_append_toDigits (zeros n : Nat) :
  Nat.ofDigitChars 10 (List.replicate zeros '0' ++ Nat.toDigits 10 n) 0 = n
  := by
  rw [Nat.ofDigitChars_append, Nat.ofDigitChars_replicate_zero, Nat.mul_zero,
    Nat.ofDigitChars_ten_toDigits]

/-- The number that a digit stands for. -/
def digitValue (c : Char) : Nat := c.toNat - '0'.toNat

theorem toNat_of_isDigit {c : Char} (h : c.isDigit = true) :
  digitValue c < 10 ∧ 48 + digitValue c = c.toNat
  := by
  have hrange : 48 ≤ c.toNat ∧ c.toNat ≤ 57 := Char.isDigit_iff_toNat.1 h
  have hvalue : digitValue c = c.toNat - 48 := rfl
  omega

theorem toDigits_digitValue {c : Char} (h : c.isDigit = true) :
  Nat.toDigits 10 (digitValue c) = [c]
  := by
  obtain ⟨hlt, hchar⟩ := toNat_of_isDigit h
  rw [Nat.toDigits_of_lt_base hlt]
  congr 1
  apply Char.toNat_inj.1
  rw [Nat.toNat_digitChar_of_lt_ten hlt, hchar]

/-- Digits behind those of a number above zero are further digits of one number. -/
theorem toDigits_append (hx : AllDigits xs) {n : Nat} (hn : 0 < n) :
  Nat.toDigits 10 n ++ xs = Nat.toDigits 10 (Nat.ofDigitChars 10 xs n)
  := by
  induction xs generalizing n with
  | nil => rw [Nat.ofDigitChars_nil, List.append_nil]
  | cons c cs ih =>
    have hc : c.isDigit = true := hx c List.mem_cons_self
    have hcs : AllDigits cs := fun c' h => hx c' (List.mem_cons_of_mem c h)
    have hnext : Nat.toDigits 10 n ++ [c] = Nat.toDigits 10 (10 * n + digitValue c) := by
      rw [← toDigits_digitValue hc]
      apply Nat.toDigits_append_toDigits (by decide) hn (toNat_of_isDigit hc).1
    calc
      Nat.toDigits 10 n ++ c :: cs = (Nat.toDigits 10 n ++ [c]) ++ cs := by simp
      _ = Nat.toDigits 10 (10 * n + digitValue c) ++ cs := by rw [hnext]
      _ = Nat.toDigits 10 (Nat.ofDigitChars 10 cs (10 * n + digitValue c)) :=
        ih hcs (by omega)
      _ = Nat.toDigits 10 (Nat.ofDigitChars 10 (c :: cs) n) := by
        rw [Nat.ofDigitChars_cons, digitValue]

/-- Digits are zeros and then the digits of the number that they stand for. -/
theorem exists_eq_zeros_append_toDigits (hx : AllDigits xs) (hne : xs ≠ []) :
  ∃ zeros, xs = List.replicate zeros '0' ++ Nat.toDigits 10 (Nat.ofDigitChars 10 xs 0)
  := by
  induction xs with
  | nil => exact absurd rfl hne
  | cons c cs ih =>
    have hc : c.isDigit = true := hx c List.mem_cons_self
    have hcs : AllDigits cs := fun c' h => hx c' (List.mem_cons_of_mem c h)
    have hvalue : Nat.ofDigitChars 10 (c :: cs) 0 = Nat.ofDigitChars 10 cs (digitValue c) := by
      rw [Nat.ofDigitChars_cons, Nat.mul_zero, Nat.zero_add, digitValue]
    obtain hzero | hpos := Nat.eq_zero_or_pos (digitValue c)
    · have hchar : [c] = ['0'] := by
        rw [← toDigits_digitValue hc, hzero]
        rfl
      cases hchar
      by_cases hend : cs = []
      · exact ⟨0, by rw [hend]; rfl⟩
      · obtain ⟨zeros, h⟩ := ih hcs hend
        refine ⟨zeros + 1, ?_⟩
        rw [hvalue, hzero, List.replicate_succ, List.cons_append, ← h]
    · refine ⟨0, ?_⟩
      rw [hvalue, ← toDigits_append hcs hpos, toDigits_digitValue hc]
      rfl

end Digits

end OrderDesk
