import Mathlib.Tactic.Ring
import OrderDesk.Json.Printer
import OrderDesk.Proofs.Number.Interval
import OrderDesk.Proofs.Text.Digits

/-!
# Numbers in JSON text

A numeral has digits before the point and may have digits behind it and a power of ten; its text
says which they are.  The text of a finite double is a numeral with a fraction or a power whose
value is that of the decimal number chosen for the double.  As this value tells the double, and
the text of an integer is a numeral with neither, two numbers with the same JSON text are the
same number.
-/

namespace OrderDesk

open Digits

/-! ### Numerals -/

/-- An unsigned decimal number as it is written. -/
structure Numeral where
  whole : List Char
  fraction : List Char
  power : Option Int
  whole_ne_nil : whole ≠ []
  allDigits_whole : AllDigits whole
  allDigits_fraction : AllDigits fraction

namespace Numeral

variable {a b : Numeral}

/-- The text of a fraction; without digits there is no point. -/
def fractionChars : List Char → List Char
  | [] => []
  | digits => '.' :: digits

/-- The text of a power of ten. -/
def powerChars : Option Int → List Char
  | none => []
  | some power => 'e' :: (if power < 0 then '-' else '+') :: Nat.toDigits 10 power.natAbs

/-- The text of a numeral. -/
def chars (a : Numeral) : List Char := a.whole ++ (fractionChars a.fraction ++ powerChars a.power)

/-- The decimal number that a numeral stands for. -/
def number (a : Numeral) : Scientific :=
  ⟨Nat.ofDigitChars 10 (a.whole ++ a.fraction) 0, a.power.getD 0 - a.fraction.length⟩

/-- The numeral has a fraction or a power. -/
def Marked (a : Numeral) : Prop := a.fraction ≠ [] ∨ a.power ≠ none

theorem fractionChars_eq {digits : List Char} (h : digits ≠ []) :
  fractionChars digits = '.' :: digits
  := by
  cases digits with
  | nil => exact absurd rfl h
  | cons digit digits => rfl

theorem halts_powerChars (power : Option Int) :
  Halts (powerChars power)
  := by
  cases power with
  | none => apply halts_nil
  | some power =>
    apply halts_cons
    decide

theorem halts_fractionChars (digits : List Char) (power : Option Int) :
  Halts (fractionChars digits ++ powerChars power)
  := by
  cases digits with
  | nil => apply halts_powerChars
  | cons digit digits =>
    apply halts_cons
    decide

theorem powerChars_inj {p q : Option Int} :
  powerChars p = powerChars q ↔ p = q
  := by
  constructor
  · intro h
    cases p with
    | none =>
      cases q with
      | none => rfl
      | some q => simp [powerChars] at h
    | some p =>
      cases q with
      | none => simp [powerChars] at h
      | some q =>
        simp only [powerChars, List.cons.injEq, true_and, toDigits_inj] at h
        obtain ⟨hsign, habs⟩ := h
        have hneg : p < 0 ↔ q < 0 := by
          by_cases hp : p < 0
          · by_cases hq : q < 0
            · exact iff_of_true hp hq
            · simp [hp, hq] at hsign
          · by_cases hq : q < 0
            · simp [hp, hq] at hsign
            · exact iff_of_false hp hq
        obtain rfl : p = q := by omega
        rfl
  · rintro rfl
    rfl

theorem fractionChars_append_inj {xs ys : List Char} {p q : Option Int} (hx : AllDigits xs)
    (hy : AllDigits ys)
    (h : fractionChars xs ++ powerChars p = fractionChars ys ++ powerChars q) :
  xs = ys ∧ p = q
  := by
  have pointless (digits : List Char) (digit : Char) (p q : Option Int) :
      powerChars p ≠ fractionChars (digit :: digits) ++ powerChars q := by
    cases p <;> simp [powerChars, fractionChars]
  cases xs with
  | nil =>
    cases ys with
    | nil => exact ⟨rfl, powerChars_inj.1 h⟩
    | cons y ys => exact absurd h (pointless ys y p q)
  | cons x xs =>
    cases ys with
    | nil => exact absurd h.symm (pointless xs x q p)
    | cons y ys =>
      have hrest := (List.cons.inj h).2
      obtain ⟨hxy, hpq⟩ := append_inj hx hy (halts_powerChars p) (halts_powerChars q) hrest
      exact ⟨hxy, powerChars_inj.1 hpq⟩

/-- The text of a numeral tells its parts. -/
theorem chars_inj :
  a.chars = b.chars ↔ a = b
  := by
  constructor
  · intro h
    obtain ⟨hwhole, hrest⟩ := append_inj a.allDigits_whole b.allDigits_whole
      (halts_fractionChars _ _) (halts_fractionChars _ _) h
    obtain ⟨hfraction, hpower⟩ :=
      fractionChars_append_inj a.allDigits_fraction b.allDigits_fraction hrest
    cases a
    cases b
    simp_all
  · rintro rfl
    rfl

/-- The text of a numeral begins with a digit. -/
theorem not_halts_chars (a : Numeral) :
  ¬Halts a.chars
  := a.allDigits_whole.not_halts a.whole_ne_nil _

/-- The text of a marked numeral does not consist of digits only. -/
theorem Marked.not_allDigits (h : a.Marked) :
  ¬AllDigits a.chars
  := by
  intro hdigits
  have hpoint : '.' ∉ a.chars := fun hc => absurd (hdigits _ hc) (by decide)
  have hletter : 'e' ∉ a.chars := fun hc => absurd (hdigits _ hc) (by decide)
  rw [Marked] at h
  rw [chars] at hpoint hletter
  cases hfraction : a.fraction with
  | nil =>
    cases hpower : a.power with
    | none => simp_all
    | some power => simp [powerChars, hpower] at hletter
  | cons digit digits => simp [fractionChars, hfraction] at hpoint

end Numeral

/-! ### Texts of doubles -/

namespace Scientific

/-- Zeros behind the coefficient shift the exponent. -/
theorem value_shift (coefficient shift : Nat) (exponent : Int) :
  value ⟨10 ^ shift * coefficient, exponent⟩ = value ⟨coefficient, exponent + shift⟩
  := by
  have hpow : (10 : ℚ) ^ (exponent + shift) = 10 ^ exponent * 10 ^ shift := by
    rw [zpow_add₀ (by decide), zpow_natCast]
  rw [value, value, hpow]
  push_cast
  ring

/-- Zeros in front of digits do not count. -/
theorem ofDigitChars_zeros (n : Nat) (digits : List Char) :
  Nat.ofDigitChars 10 (List.replicate n '0' ++ digits) 0 = Nat.ofDigitChars 10 digits 0
  := by
  rw [Nat.ofDigitChars_append, Nat.ofDigitChars_replicate_zero, Nat.mul_zero]

theorem ofDigitChars_digits (d : Scientific) :
  Nat.ofDigitChars 10 d.digits 0 = d.coefficient
  := Nat.ofDigitChars_ten_toDigits

theorem digits_ne_nil (d : Scientific) :
  d.digits ≠ []
  := Nat.toDigits_ne_nil

theorem allDigits_digits (d : Scientific) :
  AllDigits d.digits
  := allDigits_toDigits d.coefficient

end Scientific

namespace NumberLayout

open Scientific

variable {d : Scientific}

/-- The text is a numeral for the number and shows that it is no integer. -/
def Writes (cs : List Char) (d : Scientific) : Prop :=
  ∃ a : Numeral, a.chars = cs ∧ a.number.value = d.value ∧ a.Marked

/-- A numeral writes a number if its digits are the coefficient, up to zeros behind it that its
exponent makes up for. -/
theorem writes_of_digits (a : Numeral) (zeros : Nat)
    (hcoefficient : Nat.ofDigitChars 10 (a.whole ++ a.fraction) 0 = 10 ^ zeros * d.coefficient)
    (hexponent : a.power.getD 0 - a.fraction.length + zeros = d.exponent) (hmarked : a.Marked) :
  Writes a.chars d
  := by
  refine ⟨a, rfl, ?_, hmarked⟩
  rw [Numeral.number, hcoefficient, value_shift, hexponent]

/-- Below one, zeros stand between the point and the digits. -/
theorem writes_plain_of_neg (layout : NumberLayout) (h : d.leadingExponent < 0) :
  Writes (layout.plain d.digits d.leadingExponent) d
  := by
  let zeros := List.replicate (-d.leadingExponent - 1).toNat '0'
  let a : Numeral := {
    whole := List.replicate 1 '0'
    fraction := zeros ++ d.digits
    power := none
    whole_ne_nil := nofun
    allDigits_whole := allDigits_replicate 1
    allDigits_fraction := (allDigits_replicate _).append d.allDigits_digits }
  have hfraction : a.fraction ≠ [] := List.append_ne_nil_of_right_ne_nil _ d.digits_ne_nil
  have htext : layout.plain d.digits d.leadingExponent = a.chars := by
    rw [plain, if_pos h, Numeral.chars, Numeral.fractionChars_eq hfraction]
    apply congrArg ('0' :: '.' :: ·) (List.append_nil _).symm
  rw [htext]
  apply writes_of_digits a 0 _ _ (.inl hfraction)
  · change Nat.ofDigitChars 10 (List.replicate 1 '0' ++ (zeros ++ d.digits)) 0 = _
    rw [ofDigitChars_zeros, ofDigitChars_zeros, ofDigitChars_digits, Nat.pow_zero, Nat.one_mul]
  · change (0 : Int) - (zeros ++ d.digits).length + 0 = _
    rw [List.length_append, List.length_replicate]
    rw [leadingExponent] at h ⊢
    omega

/-- Digits that end before the point are filled up with zeros. -/
theorem writes_plain_of_whole (hpos : 0 ≤ d.leadingExponent)
    (h : d.digits.length ≤ d.leadingExponent.toNat + 1) :
  Writes (json.plain d.digits d.leadingExponent) d
  := by
  let zeros := List.replicate (d.leadingExponent.toNat + 1 - d.digits.length) '0'
  let a : Numeral := {
    whole := d.digits ++ zeros
    fraction := List.replicate 1 '0'
    power := none
    whole_ne_nil := List.append_ne_nil_of_left_ne_nil d.digits_ne_nil _
    allDigits_whole := d.allDigits_digits.append (allDigits_replicate _)
    allDigits_fraction := allDigits_replicate 1 }
  have htext : json.plain d.digits d.leadingExponent = a.chars := by
    rw [plain, if_neg (Int.not_lt.2 hpos)]
    apply if_pos h
  rw [htext]
  apply writes_of_digits a (d.leadingExponent.toNat + 1 - d.digits.length + 1) _ _ (.inl nofun)
  · change Nat.ofDigitChars 10 (d.digits ++ zeros ++ List.replicate 1 '0') 0 = _
    rw [Nat.ofDigitChars_append, Nat.ofDigitChars_append, ofDigitChars_digits,
      Nat.ofDigitChars_replicate_zero, Nat.ofDigitChars_replicate_zero, Nat.pow_one, pow_succ',
      Nat.mul_assoc]
  · change (0 : Int) - 1 + (d.leadingExponent.toNat + 1 - d.digits.length + 1 : Nat) = _
    rw [leadingExponent] at hpos h ⊢
    omega

/-- Other digits stand on both sides of the point. -/
theorem writes_plain_of_split (layout : NumberLayout) (hpos : 0 ≤ d.leadingExponent)
    (h : d.leadingExponent.toNat + 1 < d.digits.length) :
  Writes (layout.plain d.digits d.leadingExponent) d
  := by
  let count := d.leadingExponent.toNat + 1
  have hwhole : d.digits.take count ≠ [] := by
    rw [Ne, List.take_eq_nil_iff, not_or]
    exact ⟨Nat.succ_ne_zero _, d.digits_ne_nil⟩
  have hfraction : d.digits.drop count ≠ [] := by
    rw [Ne, List.drop_eq_nil_iff]
    omega
  let a : Numeral := {
    whole := d.digits.take count
    fraction := d.digits.drop count
    power := none
    whole_ne_nil := hwhole
    allDigits_whole := d.allDigits_digits.take count
    allDigits_fraction := d.allDigits_digits.drop count }
  have htext : layout.plain d.digits d.leadingExponent = a.chars := by
    rw [plain, if_neg (Int.not_lt.2 hpos), Numeral.chars, Numeral.fractionChars_eq hfraction]
    refine (if_neg (Nat.not_le.2 h)).trans ?_
    apply congrArg (d.digits.take count ++ '.' :: ·) (List.append_nil _).symm
  rw [htext]
  apply writes_of_digits a 0 _ _ (.inl hfraction)
  · change Nat.ofDigitChars 10 (d.digits.take count ++ d.digits.drop count) 0 = _
    rw [List.take_append_drop, ofDigitChars_digits, Nat.pow_zero, Nat.one_mul]
  · change (0 : Int) - (d.digits.drop count).length + 0 = _
    have hcount : count = d.leadingExponent.toNat + 1 := rfl
    rw [List.length_drop]
    rw [leadingExponent] at hpos h hcount
    omega

/-- A number with a power of ten has one digit before the point. -/
theorem writes_powered (d : Scientific) :
  Writes (powered d.digits d.leadingExponent) d
  := by
  have hwhole : d.digits.take 1 ≠ [] := by
    rw [Ne, List.take_eq_nil_iff, not_or]
    exact ⟨Nat.one_ne_zero, d.digits_ne_nil⟩
  let a : Numeral := {
    whole := d.digits.take 1
    fraction := d.digits.drop 1
    power := some d.leadingExponent
    whole_ne_nil := hwhole
    allDigits_whole := d.allDigits_digits.take 1
    allDigits_fraction := d.allDigits_digits.drop 1 }
  have htext : powered d.digits d.leadingExponent = a.chars := List.append_assoc _ _ _
  rw [htext]
  apply writes_of_digits a 0 _ _ (.inr nofun)
  · change Nat.ofDigitChars 10 (d.digits.take 1 ++ d.digits.drop 1) 0 = _
    rw [List.take_append_drop, ofDigitChars_digits, Nat.pow_zero, Nat.one_mul]
  · change d.leadingExponent - (d.digits.drop 1).length + 0 = _
    have hlength : 0 < d.digits.length := List.length_pos_iff.2 d.digits_ne_nil
    rw [List.length_drop, leadingExponent]
    omega

/-- The text of a magnitude is a numeral for the decimal number chosen for it. -/
theorem writes_magnitude (x : Magnitude) :
  Writes (json.magnitude x) (x.shortest json.half)
  := by
  rw [magnitude]
  generalize x.shortest json.half = d
  split
  next hpositional =>
    by_cases hneg : d.leadingExponent < 0
    · apply writes_plain_of_neg json hneg
    · by_cases hwhole : d.digits.length ≤ d.leadingExponent.toNat + 1
      · apply writes_plain_of_whole (Int.not_lt.1 hneg) hwhole
      · apply writes_plain_of_split json (Int.not_lt.1 hneg) (Nat.not_le.1 hwhole)
  next hpowered =>
    apply writes_powered

/-- The JSON text of a magnitude tells the magnitude. -/
theorem magnitude_inj {x y : Magnitude} :
  json.magnitude x = json.magnitude y ↔ x = y
  := by
  constructor
  · intro h
    obtain ⟨a, ha, hx, -⟩ := writes_magnitude x
    obtain ⟨b, hb, hy, -⟩ := writes_magnitude y
    have hab : a = b := by rw [← Numeral.chars_inj, ha, hb, h]
    have hvalue : (x.shortest json.half).value = (y.shortest json.half).value := by
      rw [← hx, hab, hy]
    apply Magnitude.shortest_value_inj hvalue
  · rintro rfl
    rfl

end NumberLayout

/-! ### Texts of numbers -/

namespace JsonNumber

/-- Whether the text of a number begins with a minus sign. -/
def negative : JsonNumber → Bool
  | .int n => decide (n < 0)
  | .double .nan => false
  | .double (.infinite negative) => negative
  | .double (.finite negative _) => negative

/-- The text of a number without its sign. -/
def unsigned : JsonNumber → List Char
  | .int n => Nat.toDigits 10 n.natAbs
  | .double .nan => ['N', 'a', 'N']
  | .double (.infinite _) => ['i', 'n', 'f']
  | .double (.finite _ m) => NumberLayout.json.magnitude m

theorem chars_eq (n : JsonNumber) :
  n.chars = if n.negative then '-' :: n.unsigned else n.unsigned
  := by
  rcases n with n | _ | negative | ⟨negative, m⟩
  · by_cases h : n < 0
    · simp [chars, negative, unsigned, h]
    · simp [chars, negative, unsigned, h]
  · rfl
  · rfl
  · rfl

theorem not_halts_toDigits (n : Nat) :
  ¬Halts (Nat.toDigits 10 n)
  := by
  rw [← List.append_nil (Nat.toDigits 10 n)]
  apply (allDigits_toDigits n).not_halts Nat.toDigits_ne_nil

theorem not_halts_magnitude (x : Magnitude) :
  ¬Halts (NumberLayout.json.magnitude x)
  := by
  obtain ⟨a, ha, -, -⟩ := NumberLayout.writes_magnitude x
  rw [← ha]
  apply a.not_halts_chars

/-- Only the text of an integer consists of digits. -/
theorem not_allDigits_unsigned (x : Binary64) :
  ¬AllDigits (unsigned (.double x))
  := by
  intro h
  rcases x with _ | negative | ⟨negative, x⟩
  · exact absurd (h 'N' List.mem_cons_self) (by decide)
  · exact absurd (h 'i' List.mem_cons_self) (by decide)
  · obtain ⟨a, ha, -, hmarked⟩ := NumberLayout.writes_magnitude x
    apply hmarked.not_allDigits
    rw [ha]
    exact h

/-- The text without its sign begins with a digit or is one of two words. -/
theorem unsigned_ne_cons (n : JsonNumber) {c : Char} (hdigit : c.isDigit = false)
    (hword : c ∉ ['N', 'i']) (cs : List Char) :
  n.unsigned ≠ c :: cs
  := by
  intro h
  have hhalts : Halts n.unsigned := by
    rw [h]
    apply halts_cons hdigit
  rcases n with n | _ | negative | ⟨negative, x⟩
  · exact not_halts_toDigits n.natAbs hhalts
  · rw [← (List.cons.inj h).1] at hword
    exact hword List.mem_cons_self
  · rw [← (List.cons.inj h).1] at hword
    exact hword (List.mem_cons_of_mem _ List.mem_cons_self)
  · exact not_halts_magnitude x hhalts

/-- The text begins with a sign, a digit or one of two words. -/
theorem chars_ne_cons (n : JsonNumber) {c : Char} (hdigit : c.isDigit = false)
    (hword : c ∉ ['-', 'N', 'i']) (cs : List Char) :
  n.chars ≠ c :: cs
  := by
  rw [List.mem_cons, not_or] at hword
  rw [chars_eq]
  split
  · intro h
    exact hword.1 (List.cons.inj h).1.symm
  · apply n.unsigned_ne_cons hdigit hword.2

theorem not_halts_unsigned (negative : Bool) (x : Magnitude) :
  ¬Halts (unsigned (.double (.finite negative x)))
  := not_halts_magnitude x

theorem halts_unsigned_nan :
  Halts (unsigned (.double .nan))
  := halts_cons (by decide) _

theorem halts_unsigned_infinite (negative : Bool) :
  Halts (unsigned (.double (.infinite negative)))
  := halts_cons (by decide) _

/-- The sign and the rest of its text tell a double. -/
theorem eq_of_unsigned_double_eq {x y : Binary64}
    (hsign : negative (.double x) = negative (.double y))
    (h : unsigned (.double x) = unsigned (.double y)) :
  x = y
  := by
  rcases x with _ | s | ⟨s, x⟩
  · rcases y with _ | t | ⟨t, y⟩
    · rfl
    · cases h
    · have hy := not_halts_unsigned t y
      rw [← h] at hy
      exact absurd halts_unsigned_nan hy
  · rcases y with _ | t | ⟨t, y⟩
    · cases h
    · exact congrArg Binary64.infinite hsign
    · have hy := not_halts_unsigned t y
      rw [← h] at hy
      exact absurd (halts_unsigned_infinite s) hy
  · have hx := not_halts_unsigned s x
    rcases y with _ | t | ⟨t, y⟩
    · rw [h] at hx
      exact absurd halts_unsigned_nan hx
    · rw [h] at hx
      exact absurd (halts_unsigned_infinite t) hx
    · exact congrArg₂ Binary64.finite hsign (NumberLayout.magnitude_inj.1 h)

/-- The sign and the rest of its text tell a number. -/
theorem eq_of_unsigned_eq {m n : JsonNumber} (hsign : m.negative = n.negative)
    (h : m.unsigned = n.unsigned) :
  m = n
  := by
  rcases m with m | x
  · have hm : AllDigits (unsigned (.int m)) := allDigits_toDigits m.natAbs
    rcases n with n | y
    · rw [negative, negative, decide_eq_decide] at hsign
      have habs : m.natAbs = n.natAbs := toDigits_inj.1 h
      obtain rfl : m = n := by omega
      rfl
    · rw [h] at hm
      exact absurd hm (not_allDigits_unsigned y)
  · rcases n with n | y
    · have hn : AllDigits (unsigned (.int n)) := allDigits_toDigits n.natAbs
      rw [← h] at hn
      exact absurd hn (not_allDigits_unsigned x)
    · rw [eq_of_unsigned_double_eq hsign h]

/-- The JSON text of a number tells the number. -/
theorem chars_inj {m n : JsonNumber} :
  m.chars = n.chars ↔ m = n
  := by
  constructor
  · intro h
    rw [chars_eq, chars_eq] at h
    cases hm : m.negative with
    | true =>
      cases hn : n.negative with
      | true =>
        rw [hm, hn] at h
        apply eq_of_unsigned_eq (hm.trans hn.symm) (List.cons.inj h).2
      | false =>
        rw [hm, hn] at h
        exact absurd h.symm (n.unsigned_ne_cons (by decide) (by decide) _)
    | false =>
      cases hn : n.negative with
      | true =>
        rw [hm, hn] at h
        exact absurd h (m.unsigned_ne_cons (by decide) (by decide) _)
      | false =>
        rw [hm, hn] at h
        apply eq_of_unsigned_eq (hm.trans hn.symm) h
  · rintro rfl
    rfl

end JsonNumber

end OrderDesk
