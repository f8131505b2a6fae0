import OrderDesk.Order.Form
import OrderDesk.Proofs.Json.Objects
import OrderDesk.Proofs.Number.Numeral

/-!
# Texts of decimals

The text of a decimal is a numeral without a power of ten, behind the sign.  It has as many digits
behind its point as the decimal has, and its digits read as the mantissa, since the zeros in front
of them do not count; so it tells the decimal, digit for digit.
-/

namespace OrderDesk

open Digits

namespace Decimal

variable {a b : Decimal}

/-- The digits of a decimal, at least one of them before the point. -/
def digits (d : Decimal) : List Char :=
  List.replicate (d.scale + 1 - (Nat.toDigits 10 d.mantissa).length) '0'
    ++ Nat.toDigits 10 d.mantissa

theorem allDigits_digits (d : Decimal) :
  AllDigits d.digits
  := (allDigits_replicate _).append (allDigits_toDigits _)

theorem scale_lt_length_digits (d : Decimal) :
  d.scale < d.digits.length
  := by
  rw [digits, List.length_append, List.length_replicate]
  omega

theorem ofDigitChars_digits (d : Decimal) :
  Nat.ofDigitChars 10 d.digits 0 = d.mantissa
  := ofDigitChars_zeros_append_toDigits _ _

/-- A decimal without its sign. -/
def numeral (d : Decimal) : Numeral where
  whole := d.digits.take (d.digits.length - d.scale)
  fraction := d.digits.drop (d.digits.length - d.scale)
  power := none
  whole_ne_nil := by
    have h := d.scale_lt_length_digits
    apply List.ne_nil_of_length_pos
    rw [List.length_take]
    omega
  allDigits_whole := d.allDigits_digits.take _
  allDigits_fraction := d.allDigits_digits.drop _

/-- A decimal has as many digits behind its point as its scale says. -/
theorem length_fraction (d : Decimal) :
  d.numeral.fraction.length = d.scale
  := by
  have h := d.scale_lt_length_digits
  rw [numeral, List.length_drop]
  omega

theorem whole_append_fraction (d : Decimal) :
  d.numeral.whole ++ d.numeral.fraction = d.digits
  := List.take_append_drop _ _

/-- Decimals that are written alike but for the sign have the same digits. -/
theorem numeral_inj :
  a.numeral = b.numeral ↔ a.mantissa = b.mantissa ∧ a.scale = b.scale
  := by
  constructor
  · intro h
    constructor
    · rw [← a.ofDigitChars_digits, ← a.whole_append_fraction, h, b.whole_append_fraction,
        b.ofDigitChars_digits]
    · rw [← a.length_fraction, h, b.length_fraction]
  · rintro ⟨hmantissa, hscale⟩
    simp [numeral, digits, hmantissa, hscale]

theorem chars_eq (d : Decimal) :
  d.chars = (if d.negative then ['-'] else []) ++ d.numeral.chars
  := by
  have hfraction (cs : List Char) :
      (if cs.isEmpty then [] else '.' :: cs) = Numeral.fractionChars cs := by
    cases cs with
    | nil => rfl
    | cons c cs => rfl
  rw [chars, Numeral.chars, hfraction, List.append_assoc]
  simp [numeral, digits, Numeral.powerChars]

/-- The text of a decimal tells the decimal. -/
theorem chars_inj :
  a.chars = b.chars ↔ a = b
  := by
  -- a numeral begins with a digit, so the sign is told by the first character
  have unsigned (d d' : Decimal) : d.numeral.chars ≠ '-' :: d'.numeral.chars := by
    intro h
    apply d.numeral.not_halts_chars
    rw [h]
    apply halts_cons
    decide
  constructor
  · intro h
    rw [chars_eq, chars_eq] at h
    have hparts : a.negative = b.negative ∧ a.numeral = b.numeral := by
      rcases ha : a.negative with _ | _
      · rcases hb : b.negative with _ | _
        · simpa [ha, hb, Numeral.chars_inj] using h
        · exact absurd (by simpa [ha, hb] using h) (unsigned a b)
      · rcases hb : b.negative with _ | _
        · exact absurd (by simpa [ha, hb] using h.symm) (unsigned b a)
        · simpa [ha, hb, Numeral.chars_inj] using h
    obtain ⟨hnegative, hnumeral⟩ := hparts
    obtain ⟨hmantissa, hscale⟩ := numeral_inj.1 hnumeral
    apply Decimal.ext hnegative hmantissa hscale
  · rintro rfl
    rfl

theorem toValue_inj :
  a.toValue = b.toValue ↔ a = b
  := by
  rw [toValue, toValue, Value.str_inj, text, text, String.ofList_inj, chars_inj]

/-! ### Signs -/

theorem negative_of_isPositive (h : a.isPositive = true) :
  a.negative = false
  := by
  simp only [isPositive, Bool.and_eq_true, Bool.not_eq_true'] at h
  exact h.1

theorem neg_inj :
  a.neg = b.neg ↔ a = b
  := by
  constructor
  · intro h
    have twice (d : Decimal) : d.neg.neg = d := by simp [neg]
    rw [← twice a, h, twice]
  · rintro rfl
    rfl

end Decimal

end OrderDesk
