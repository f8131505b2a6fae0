import OrderDesk.Proofs.Text.Digits
import OrderDesk.Venue.Judgement

/-!
# Statuses as codes

OANDA may give an HTTP status as the code of an error of its own.  The codes that are read as a
status are those that spell it, `Spells`: a plus sign or none, any number of zeros, and its decimal
digits.  The status then decides about retries as it does by itself, but for the status 429, which
is a reason to try again as a status and a rejection as a code.
-/

namespace OrderDesk

open Digits

variable {code : String} {status : UInt16} {digits : List Char}

/-! ### Spelling -/

/-- A code gives a status in decimal digits, with any number of zeros in front of them and a plus
sign or none in front of these. -/
def Spells (code : String) (status : UInt16) : Prop :=
  ∃ zeros,
    code.toList = List.replicate zeros '0' ++ Nat.toDigits 10 status.toNat
      ∨ code.toList = '+' :: (List.replicate zeros '0' ++ Nat.toDigits 10 status.toNat)

theorem readDigits?_eq_some :
  readDigits? digits = some status
    ↔ digits ≠ [] ∧ AllDigits digits ∧ Nat.ofDigitChars 10 digits 0 = status.toNat
  := by
  have bound : status.toNat < 0x10000 := status.toNat_lt
  have fits (n : Nat) (hn : n < 0x10000) : n.toUInt16 = status ↔ n = status.toNat := by
    rw [← UInt16.toNat_inj, Nat.toUInt16_eq, UInt16.toNat_ofNat_of_lt' hn]
  rw [readDigits?]
  split
  case isTrue h =>
    simp only [reduceCtorEq, false_iff, not_and]
    intro hne hall
    obtain hempty | hother := h
    · exact absurd (List.isEmpty_iff.1 hempty) hne
    · obtain ⟨c, hc, hdigit⟩ := List.any_eq_true.1 hother
      rw [hall c hc] at hdigit
      exact absurd hdigit Bool.false_ne_true
  case isFalse h =>
    simp only [not_or, List.isEmpty_iff, List.any_eq_true, not_exists, not_and,
      Bool.not_eq_true', Bool.not_eq_false] at h
    dsimp only
    split
    case isTrue hlt =>
      have hall : AllDigits digits := h.2
      rw [Option.some_inj, fits _ hlt, and_iff_right h.1, and_iff_right hall]
    case isFalse hge =>
      simp only [reduceCtorEq, false_iff, not_and]
      omega

/-- Digits are read as a status if they are its own after any number of zeros. -/
theorem readDigits?_eq_some_iff :
  readDigits? digits = some status
    ↔ ∃ zeros, digits = List.replicate zeros '0' ++ Nat.toDigits 10 status.toNat
  := by
  rw [readDigits?_eq_some]
  constructor
  · rintro ⟨hne, hall, hvalue⟩
    rw [← hvalue]
    apply exists_eq_zeros_append_toDigits hall hne
  · rintro ⟨zeros, rfl⟩
    refine ⟨?_, ?_, ofDigitChars_zeros_append_toDigits zeros _⟩
    · exact List.append_ne_nil_of_right_ne_nil _ (toDigits_ne_nil _)
    · exact (allDigits_replicate zeros).append (allDigits_toDigits _)

/-- A plus sign is not a digit. -/
theorem zeros_append_toDigits_ne_plus (zeros n : Nat) (rest : List Char) :
  List.replicate zeros '0' ++ Nat.toDigits 10 n ≠ '+' :: rest
  := by
  intro h
  have hall := (allDigits_replicate zeros).append (allDigits_toDigits n)
  have hplus : '+'.isDigit = true := by
    apply hall
    rw [h]
    exact List.mem_cons_self
  exact absurd hplus (by decide)

/-- The codes that are read as a status are those that spell it. -/
theorem readStatus?_eq_some_iff :
  readStatus? code = some status ↔ Spells code status
  := by
  rw [readStatus?, Spells]
  split
  case h_1 rest hcode =>
    rw [readDigits?_eq_some_iff]
    apply exists_congr
    intro zeros
    rw [hcode, List.cons.injEq, or_iff_right (zeros_append_toDigits_ne_plus zeros _ _).symm]
    exact (and_iff_right rfl).symm
  case h_2 hplain =>
    rw [readDigits?_eq_some_iff]
    apply exists_congr
    intro zeros
    rw [or_iff_left (hplain _)]

namespace Venue

/-! ### Judging -/

theorem isUnavailableStatus_iff :
  isUnavailableStatus status = true ↔ status = 429 ∨ 500 ≤ status
  := by
  rw [isUnavailableStatus, Bool.or_eq_true, beq_iff_eq, decide_eq_true_iff]

/-- At every venue an HTTP status is a reason to try again if it is 429 or from 500 upwards. -/
theorem isRetryable_judge_http (venue : Venue) (status : UInt16) (m : String) :
  (venue.judge (.http status m)).isRetryable = true ↔ status = 429 ∨ 500 ≤ status
  := by
  rw [← isUnavailableStatus_iff, judge]
  split
  case isTrue h => simp [Failure.isRetryable, h]
  case isFalse h => simp [Failure.isRetryable, h]

theorem isRetryable_judge_venue (venue : Venue) (code m : String) :
  (venue.judge (.venue code m)).isRetryable = true ↔ venue.isUnavailableCode code = true
  := by
  rw [judge]
  split
  case isTrue h => simp [Failure.isRetryable, h]
  case isFalse h => simp [Failure.isRetryable, h]

/-- A code that OANDA gives for a status is a reason to try again if the status is from 500
upwards. -/
theorem isUnavailableCode_oanda (read : readStatus? code = some status) :
  oanda.isUnavailableCode code = true ↔ 500 ≤ status
  := by
  have named : code ≠ "RATE_LIMIT" := by
    rintro rfl
    have unread : readStatus? "RATE_LIMIT" = none := by decide
    rw [unread] at read
    cases read
  rw [isUnavailableCode, read, Bool.or_eq_true, beq_iff_eq, or_iff_right named, Option.any_some,
    decide_eq_true_iff]

/-- OANDA's errors are judged by a status that they give as their code as by the status itself,
unless it is 429.  The codes that count as a status are those that spell it.  With each of them and
with any messages the error may be retried exactly if the status alone may be, other than for 429:
this status may be retried and the error is a rejection. -/
theorem status_codes_are_judged_as_statuses_but_for_429 (code : String) (status : UInt16)
    (m m' : String) :
  (readStatus? code = some status ↔ Spells code status)
  ∧ (Spells code status →
    (((oanda.judge (.venue code m)).isRetryable = true
        ↔ (oanda.judge (.http status m')).isRetryable = true)
      ↔ status ≠ 429)
    ∧ (status = 429 →
      oanda.judge (.http status m') = .retryable (.venueUnavailable "429" m')
        ∧ oanda.judge (.venue code m)
          = .fatal (.rejected (TransportFailure.venue code m).message)))
  := by
  refine ⟨readStatus?_eq_some_iff, fun spells => ?_⟩
  have read := readStatus?_eq_some_iff.2 spells
  have hcode := isUnavailableCode_oanda read
  constructor
  · rw [isRetryable_judge_http, isRetryable_judge_venue, hcode]
    constructor
    · rintro h rfl
      exact absurd (h.2 (.inl rfl)) (by decide)
    · intro hne
      rw [or_iff_right hne]
  · rintro rfl
    constructor
    · rfl
    · have unsaid : oanda.isUnavailableCode code = false := by
        rw [← Bool.not_eq_true, hcode]
        decide
      rw [judge, unsaid]
      rfl

/-- An error with the code `+0503` is judged as the status 503 is. -/
theorem code_503_is_judged_as_status :
  Spells "+0503" 503
  ∧ ((oanda.judge (.venue "+0503" "down")).isRetryable = true
    ↔ (oanda.judge (.http 503 "bad gateway")).isRetryable = true)
  ∧ (oanda.judge (.venue "+0503" "down")).isRetryable = true
  := by
  have told := status_codes_are_judged_as_statuses_but_for_429 "+0503" 503 "down" "bad gateway"
  have spells : Spells "+0503" 503 := told.1.1 (by decide)
  refine ⟨spells, (told.2 spells).1.2 (by decide), by decide⟩

/-- The codes `429` and `+00429` are read as the status 429, which may be retried; errors with these
codes are rejections. -/
theorem code_429_is_not_judged_as_status :
  readStatus? "429" = some 429 ∧ readStatus? "+00429" = some 429
  ∧ (oanda.judge (.http 429 "slow down")).isRetryable = true
  ∧ (oanda.judge (.venue "429" "slow down")).isRetryable = false
  ∧ (oanda.judge (.venue "+00429" "slow down")).isRetryable = false
  := by
  decide

end Venue

end OrderDesk
