import Mathlib.Tactic.SplitIfs
import OrderDesk.Fields

/-!
# The bytes of texts

Texts are compared character by character.  Comparing their bytes in UTF-8 comes to the same: the
first byte of a character grows with the number of its bytes, and among characters of as many bytes
the bytes are in the order of the characters.  So two texts differ first in the bytes of the
characters in which they differ first.
-/

namespace OrderDesk

namespace Bytes

/-- The bytes of a text in UTF-8. -/
def utf8 (s : String) : List UInt8 := s.toUTF8.data.toList

theorem utf8_eq (s : String) :
  utf8 s = s.toList.flatMap String.utf8EncodeChar
  := by
  rw [utf8, String.toUTF8_eq_toByteArray, ← String.utf8Encode_toList, List.utf8Encode,
    List.data_toByteArray]

/-- Of two characters the bytes of the lesser one come first, whatever follows them. -/
theorem encode_append_lt {c d : Char} (h : c < d) (xs ys : List UInt8) :
  String.utf8EncodeChar c ++ xs < String.utf8EncodeChar d ++ ys
  := by
  have hlt : c.val.toNat < d.val.toNat := h
  have hmax : d.val.toNat < 0x110000 := by
    have hvalid := d.valid
    simp only [UInt32.isValidChar, Nat.isValidChar] at hvalid
    omega
  rw [String.utf8EncodeChar, String.utf8EncodeChar]
  generalize c.val.toNat = m at *
  generalize d.val.toNat = n at *
  -- one case for the number of bytes of each; the codes of the bytes are below 256
  split_ifs
  all_goals
    simp only [List.cons_append, List.nil_append, List.cons_lt_cons_iff, UInt8.lt_iff_toNat_lt,
      ← UInt8.toNat_inj, UInt8.toNat_ofNat']
    simp (disch := omega) only [Nat.mod_eq_of_lt]
    omega

theorem encode_ne_nil (c : Char) :
  String.utf8EncodeChar c ≠ []
  := by
  rw [String.utf8EncodeChar]
  split_ifs
  all_goals exact List.cons_ne_nil _ _

/-- Encoding keeps the order of texts. -/
theorem flatMap_encode_lt {cs ds : List Char} (h : cs < ds) :
  cs.flatMap String.utf8EncodeChar < ds.flatMap String.utf8EncodeChar
  := by
  induction h with
  | @nil d ds =>
    obtain ⟨x, xs, hbytes⟩ := List.exists_cons_of_ne_nil (encode_ne_nil d)
    rw [List.flatMap_nil, List.flatMap_cons, hbytes]
    apply List.nil_lt_cons
  | rel hlt =>
    rw [List.flatMap_cons, List.flatMap_cons]
    apply encode_append_lt hlt
  | cons _ ih =>
    rw [List.flatMap_cons, List.flatMap_cons]
    apply List.append_left_lt ih

/-- The order of texts is that of their bytes. -/
theorem utf8_lt_iff {s t : String} :
  utf8 s < utf8 t ↔ s < t
  := by
  have mono {s t : String} (h : s < t) : utf8 s < utf8 t := by
    rw [utf8_eq, utf8_eq]
    apply flatMap_encode_lt h
  constructor
  · intro h
    apply Decidable.byContradiction
    intro hnlt
    obtain rfl | hlt : t = s ∨ t < s := by
      by_cases heq : t = s
      · exact .inl heq
      · exact .inr (Fields.lt_of_not_lt_of_ne hnlt (Ne.symm heq))
    · exact List.lt_irrefl _ h
    · exact List.lt_asymm h (mono hlt)
  · exact mono

end Bytes

end OrderDesk
