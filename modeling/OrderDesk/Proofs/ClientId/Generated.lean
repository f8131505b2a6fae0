import OrderDesk.ClientId
import OrderDesk.Proofs.Text.Digits

/-!
# Generated ids

A generated id says which sequence number it was made of and for which venue: its last dash stands
right before the number, whatever the name of the venue contains, and the zeros in front of the
number do not change its value.
-/

namespace OrderDesk

namespace ClientId

variable {m n : Nat} {venue other : String} {j k : UInt64}

/-- A number with at least six digits reads as that number. -/
theorem ofDigitChars_sixDigits (n : Nat) :
  Nat.ofDigitChars 10 (sixDigits n) 0 = n
  := Digits.ofDigitChars_zeros_append_toDigits _ n

theorem sixDigits_inj :
  sixDigits m = sixDigits n ↔ m = n
  := by
  constructor
  · intro h
    rw [← ofDigitChars_sixDigits m, h, ofDigitChars_sixDigits]
  · rintro rfl
    rfl

theorem allDigits_sixDigits (n : Nat) :
  Digits.AllDigits (sixDigits n)
  := (Digits.allDigits_replicate _).append (Digits.allDigits_toDigits n)

/-- Ids generated for two venues or from two numbers differ. -/
theorem generated_eq_iff :
  generated venue j = generated other k ↔ venue = other ∧ j = k
  := by
  constructor
  · intro h
    have htext : venue.toList ++ '-' :: sixDigits j.toNat
        = other.toList ++ '-' :: sixDigits k.toNat := by
      have hlist := congrArg (fun id => id.text.toList) h
      simpa [generated] using hlist
    -- read from the end the text is the digits of the number up to the last dash
    have hback : (sixDigits j.toNat).reverse ++ '-' :: venue.toList.reverse
        = (sixDigits k.toNat).reverse ++ '-' :: other.toList.reverse := by
      simpa using congrArg List.reverse htext
    have hdash : '-'.isDigit = false := rfl
    obtain ⟨hdigits, hvenue⟩ := Digits.append_inj (allDigits_sixDigits _).reverse
      (allDigits_sixDigits _).reverse (Digits.halts_cons hdash _) (Digits.halts_cons hdash _) hback
    constructor
    · rw [← String.toList_inj, ← List.reverse_inj]
      exact (List.cons.inj hvenue).2
    · rw [← UInt64.toNat_inj, ← sixDigits_inj, ← List.reverse_inj]
      exact hdigits
  · rintro ⟨rfl, rfl⟩
    rfl

/-- Ids generated for one venue from different numbers differ. -/
theorem generated_inj :
  generated venue j = generated venue k ↔ j = k
  := generated_eq_iff.trans (and_iff_right rfl)

end ClientId

end OrderDesk
