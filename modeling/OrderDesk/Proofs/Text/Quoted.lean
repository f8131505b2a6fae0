import OrderDesk.Json.Document
import OrderDesk.Json.Printer

/-!
# Quoted texts

Reading a quoted text gives back what was quoted, and stops behind the closing quote.  Hence a
text that begins with a quoted one says which it is and what follows it.
-/

namespace OrderDesk

namespace Json

open Document (textCodes escaped? hexQuad?)

/-- The codes of a text with one more character in front. -/
def withCode (code : Nat) (p : List Nat × List Char) : List Nat × List Char := (code :: p.1, p.2)

/-! ### Reading one character -/

/-- A backslash and a letter stand for the character of that letter. -/
theorem textCodes_lettered {x : Char} {code : Nat} (hne : x ≠ 'u') (hx : escaped? x = some code)
    (rest : List Char) :
  textCodes ('\\' :: x :: rest) = (textCodes rest).map (withCode code)
  := by
  rw [textCodes, hx]
  · rcases textCodes rest with _ | ⟨codes, rest⟩
    · rfl
    · rfl
  · intro _ _ _ _ _ h
    exact absurd h hne

/-- Four hexadecimal digits stand for the character with their number. -/
theorem textCodes_numbered {a b c d : Char} {code : Nat} (h : hexQuad? a b c d = some code)
    (rest : List Char) :
  textCodes ('\\' :: 'u' :: a :: b :: c :: d :: rest) = (textCodes rest).map (withCode code)
  := by
  rw [textCodes, h]
  rcases textCodes rest with _ | ⟨codes, rest⟩
  · rfl
  · rfl

/-- A character that needs no escape stands for itself. -/
theorem textCodes_plain {c : Char} (quote : c ≠ '"') (backslash : c ≠ '\\')
    (control : ¬c.toNat < 32) (rest : List Char) :
  textCodes (c :: rest) = (textCodes rest).map (withCode c.toNat)
  := by
  rw [textCodes, if_neg control]
  · rcases textCodes rest with _ | ⟨codes, rest⟩
    · rfl
    · rfl
  · exact quote
  · intro _ _ _ _ _ h
    exact absurd h backslash
  · intro _ _ h
    exact absurd h backslash

/-- The number of a control character is read back from its two hexadecimal digits. -/
theorem hexQuad?_digitChar {n : Nat} (h : n < 32) :
  hexQuad? '0' '0' (n / 16).digitChar (n % 16).digitChar = some n
  := by
  revert n
  decide

/-- A character is written with a letter, with its number or as it is. -/
theorem escape_cases (c : Char) :
  (∃ x, escape c = ['\\', x] ∧ x ≠ 'u' ∧ escaped? x = some c.toNat)
  ∨ (c.toNat < 32
      ∧ escape c = ['\\', 'u', '0', '0', (c.toNat / 16).digitChar, (c.toNat % 16).digitChar])
  ∨ (c ≠ '"' ∧ c ≠ '\\' ∧ ¬c.toNat < 32 ∧ escape c = [c])
  := by
  by_cases lettered : c ∈ ['"', '\\', '\n', '\r', '\t', '\x08', '\x0c']
  · left
    simp only [List.mem_cons, List.not_mem_nil, or_false] at lettered
    obtain rfl | rfl | rfl | rfl | rfl | rfl | rfl := lettered
    all_goals exact ⟨_, rfl, by decide, rfl⟩
  · right
    simp only [List.mem_cons, List.not_mem_nil, or_false, not_or] at lettered
    obtain ⟨quote, backslash, newline, carriage, tab, backspace, feed⟩ := lettered
    simp only [escape, quote, backslash, newline, carriage, tab, backspace, feed, if_false]
    by_cases control : c.toNat < 32
    · exact .inl ⟨control, if_pos control⟩
    · exact .inr ⟨quote, backslash, control, if_neg control⟩

/-- Reading takes the written form of a character for that character. -/
theorem textCodes_escape (c : Char) (rest : List Char) :
  textCodes (escape c ++ rest) = (textCodes rest).map (withCode c.toNat)
  := by
  obtain ⟨x, heq, hne, hx⟩ | ⟨control, heq⟩ | ⟨quote, backslash, control, heq⟩ := escape_cases c
  · rw [heq]
    apply textCodes_lettered hne hx
  · rw [heq]
    apply textCodes_numbered (hexQuad?_digitChar control)
  · rw [heq]
    apply textCodes_plain quote backslash control

/-! ### Reading a quoted text -/

/-- Reading a quoted text gives back the codes of its characters, and what follows the quote. -/
theorem textCodes_flatMap_escape (s rest : List Char) :
  textCodes (s.flatMap escape ++ '"' :: rest) = some (s.map Char.toNat, rest)
  := by
  induction s with
  | nil => rfl
  | cons c s ih =>
    rw [List.flatMap_cons, List.append_assoc, textCodes_escape, ih]
    rfl

theorem quote_append (s rest : List Char) :
  quote s ++ rest = '"' :: (s.flatMap escape ++ '"' :: rest)
  := by
  rw [quote, List.cons_append, List.append_assoc]
  rfl

/-- A text that begins with a quoted one says which it is and what follows it. -/
theorem quote_append_inj {s s' rest rest' : List Char}
    (h : quote s ++ rest = quote s' ++ rest') :
  s = s' ∧ rest = rest'
  := by
  rw [quote_append, quote_append] at h
  have hcodes := textCodes_flatMap_escape s rest
  rw [(List.cons.inj h).2, textCodes_flatMap_escape] at hcodes
  obtain ⟨hs, rfl⟩ := Prod.mk.inj (Option.some.inj hcodes)
  refine ⟨?_, rfl⟩
  apply List.map_inj_right _ |>.1 hs.symm
  intro c c' hc
  exact Char.toNat_inj.1 hc

theorem quote_inj {s s' : List Char} :
  quote s = quote s' ↔ s = s'
  := by
  constructor
  · intro h
    have hnil : quote s ++ [] = quote s' ++ [] := by rw [h]
    exact (quote_append_inj hnil).1
  · rintro rfl
    rfl

end Json

end OrderDesk
