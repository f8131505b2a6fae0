import OrderDesk.Proofs.Decimal.Text

/-!
# Decimals are read back

The digits of a decimal are taken into the mantissa one after the other, and those behind the point
are counted.  What has been read on the way never exceeds the mantissa, and no more than 28 digits
stand behind the point, so every digit finds its place and none is rounded off.  Only the sign of a
zero is not read back.
-/

namespace OrderDesk

open Digits

namespace Digits

variable {ds : List Char} {n : Nat}

/-- Further digits do not make a number less. -/
theorem le_ofDigitChars (ds : List Char) (n : Nat) :
  n ≤ Nat.ofDigitChars 10 ds n
  := by
  induction ds generalizing n with
  | nil => rw [Nat.ofDigitChars_nil]
  | cons c ds ih =>
    rw [Nat.ofDigitChars_cons]
    apply Nat.le_trans _ (ih _)
    omega

end Digits

/-- The text of a numeral begins with nothing but a digit. -/
theorem Numeral.chars_ne_cons (a : Numeral) {c : Char} (h : c.isDigit = false) (rest : List Char) :
  a.chars ≠ c :: rest
  := by
  intro heq
  apply a.not_halts_chars
  rw [heq]
  apply halts_cons h

namespace Decimal

variable {ds : List Char} {n : Nat}

/-! ### Digits -/

/-- The next digit is within bounds if all digits are. -/
theorem next_lt {c : Char} {bound : Nat} (h : Nat.ofDigitChars 10 (c :: ds) n < bound) :
  n * 10 + digitValue c < bound
    ∧ Nat.ofDigitChars 10 ds (n * 10 + digitValue c) = Nat.ofDigitChars 10 (c :: ds) n
  := by
  have hnext : Nat.ofDigitChars 10 ds (n * 10 + digitValue c)
      = Nat.ofDigitChars 10 (c :: ds) n := by
    rw [Nat.ofDigitChars_cons, digitValue, Nat.mul_comm]
  refine ⟨?_, hnext⟩
  apply Nat.lt_of_le_of_lt (le_ofDigitChars ds _)
  rw [hnext]
  exact h

/-- Digits in front of a text are read into the mantissa, if there is room for them. -/
theorem readWhole_append (hd : AllDigits ds)
    (room : Nat.ofDigitChars 10 ds n < 0x1000000000000000000000000) {seen : Bool}
    (first : seen = true ∨ ds ≠ []) (rest : List Char) :
  readWhole n seen (ds ++ rest) = readWhole (Nat.ofDigitChars 10 ds n) true rest
  := by
  induction ds generalizing n seen with
  | nil =>
    rw [first.resolve_right (absurd rfl)]
    rfl
  | cons c ds ih =>
    obtain ⟨hlt, hnext⟩ := next_lt room
    rw [List.cons_append, readWhole, if_pos (hd c List.mem_cons_self), if_pos hlt, ← hnext]
    apply ih
    · exact fun c' hc => hd c' (List.mem_cons_of_mem c hc)
    · rw [hnext]
      exact room
    · exact .inl rfl

/-- Digits behind the point are read into the mantissa and counted, if there is room for them. -/
theorem readFraction_digits {scale : Nat} (hd : AllDigits ds)
    (room : Nat.ofDigitChars 10 ds n < 0x1000000000000000000000000)
    (places : scale + ds.length ≤ 28) :
  readFraction n scale true ds = some (Nat.ofDigitChars 10 ds n, scale + ds.length)
  := by
  induction ds generalizing n scale with
  | nil => rfl
  | cons c ds ih =>
    obtain ⟨hlt, hnext⟩ := next_lt room
    rw [List.length_cons] at places
    rw [readFraction, if_neg (by omega), if_pos (hd c List.mem_cons_self), if_pos hlt, ← hnext, ih]
    · rw [List.length_cons, Nat.add_assoc, Nat.add_comm 1]
    · exact fun c' hc => hd c' (List.mem_cons_of_mem c hc)
    · rw [hnext]
      exact room
    · omega

/-! ### Texts -/

/-- Without its sign, a decimal is read digit for digit. -/
theorem readWhole_numeral (d : Decimal) :
  readWhole 0 false d.numeral.chars = some (d.mantissa, d.scale)
  := by
  have hdigits : Nat.ofDigitChars 10 d.numeral.fraction
      (Nat.ofDigitChars 10 d.numeral.whole 0) = d.mantissa := by
    rw [← Nat.ofDigitChars_append, whole_append_fraction, ofDigitChars_digits]
  have room : Nat.ofDigitChars 10 d.numeral.whole 0 < 0x1000000000000000000000000 := by
    apply Nat.lt_of_le_of_lt (le_ofDigitChars d.numeral.fraction _)
    rw [hdigits]
    exact d.mantissa_lt
  have hchars : d.numeral.chars = d.numeral.whole ++ Numeral.fractionChars d.numeral.fraction :=
    congrArg _ (List.append_nil _)
  rw [hchars, readWhole_append d.numeral.allDigits_whole room (.inr d.numeral.whole_ne_nil)]
  by_cases hfraction : d.numeral.fraction = []
  · have hscale := d.length_fraction
    rw [hfraction] at hscale hdigits
    rw [hfraction, ← hdigits, ← hscale]
    rfl
  · have places : 0 + d.numeral.fraction.length ≤ 28 := by
      rw [Nat.zero_add, length_fraction]
      exact d.scale_le
    rw [Numeral.fractionChars_eq hfraction]
    change readFraction _ 0 true d.numeral.fraction = _
    rw [readFraction_digits d.numeral.allDigits_fraction _ places, hdigits, length_fraction,
      Nat.zero_add]
    rw [hdigits]
    exact d.mantissa_lt

/-- The text of a decimal is read as its sign, its mantissa and its scale. -/
theorem readPlain?_chars (d : Decimal) :
  readPlain? d.chars = ofRead? d.negative d.mantissa d.scale
  := by
  rw [chars_eq]
  cases d.negative with
  | true =>
    change readWhole 0 false d.numeral.chars >>= _ = _
    rw [readWhole_numeral]
    rfl
  | false =>
    rw [if_neg Bool.false_ne_true, List.nil_append, readPlain?]
    · rw [readWhole_numeral]
      rfl
    · intro rest
      apply d.numeral.chars_ne_cons (by decide)
    · intro rest
      apply d.numeral.chars_ne_cons (by decide)

/-- The decimals have the same mantissa and the same scale, and the same sign unless they are
zero. -/
structure SameDigits (a b : Decimal) : Prop where
  mantissa : a.mantissa = b.mantissa
  scale : a.scale = b.scale
  negative (nonzero : a.mantissa ≠ 0) : a.negative = b.negative

/-- The text of a decimal is read back, but for the sign of a zero. -/
theorem exists_read?_text (d : Decimal) :
  ∃ d', read? d.text = some d' ∧ d.SameDigits d'
  := by
  let d' : Decimal :=
    ⟨d.negative && d.mantissa != 0, d.mantissa, d.scale, d.mantissa_lt, d.scale_le⟩
  have hread : readPlain? d.chars = some d' := by
    rw [readPlain?_chars, ofRead?, of?, dif_pos ⟨d.mantissa_lt, d.scale_le⟩]
  refine ⟨d', ?_, rfl, rfl, ?_⟩
  · rw [read?, text, String.toList_ofList, hread]
    rfl
  · intro nonzero
    simp [d', nonzero]

/-- A mantissa of 96 bits with 28 places is read back whole, and a zero loses its sign. -/
example :
  read? "-7.9228162514264337593543950335"
      = some ⟨true, 79228162514264337593543950335, 28, by decide, by decide⟩
  ∧ read? "-0.00" = some ⟨false, 0, 2, by decide, by decide⟩
  := by decide

end Decimal

end OrderDesk
