import Mathlib.Data.List.Lex

/-!
The order of texts and the order of their UTF-8 bytes. Texts are ordered by the codes of their
characters. A character of a longer form has the higher first byte, and two forms of one length
differ first in their highest differing digit, so that the bytes of the texts are in the same order.
-/

namespace ScopedGrants.Text

def bytes (text : String) : List UInt8 := text.toUTF8.data.toList

theorem bytes_eq (text : String) : bytes text = text.toList.flatMap String.utf8EncodeChar := by
  rw [bytes, String.toUTF8_eq_toByteArray, ← String.utf8Encode_toList, List.utf8Encode,
    List.toList_data_toByteArray]

theorem code_lt (c : Char) : c.val.toNat < 0x110000 := by
  rcases c.valid with low | high
  · exact Nat.lt_trans low (by decide)
  · exact high.2

/-- The forms of two characters settle the order, whatever follows them. -/
theorem encode_append_lt {c d : Char} (below : c < d) (rest others : List UInt8) :
    String.utf8EncodeChar c ++ rest < String.utf8EncodeChar d ++ others := by
  have order : c.val.toNat < d.val.toNat := below
  have bound := code_lt d
  -- The bytes after the first carry six bits each, so every division is one by 64, repeated.
  have third (code : Nat) : code / 4096 = code / 64 / 64 := by omega
  have fourth (code : Nat) : code / 262144 = code / 64 / 64 / 64 := by omega
  unfold String.utf8EncodeChar
  simp only [third, fourth]
  generalize c.val.toNat = low at order
  generalize d.val.toNat = high at order bound
  -- One case for each pair of lengths. Where the lengths differ the first bytes do.
  split_ifs
  all_goals
    simp only [List.cons_append, List.nil_append, List.cons_lt_cons_iff, UInt8.lt_iff_toNat_lt,
      ← UInt8.toNat_inj, UInt8.toNat_ofNat']
    omega

theorem flatMap_encode_lt {a b : List Char} (below : a < b) :
    a.flatMap String.utf8EncodeChar < b.flatMap String.utf8EncodeChar := by
  induction (below : List.Lex (· < ·) a b) with
  | @nil c rest =>
    rw [List.flatMap_cons]
    cases form : String.utf8EncodeChar c with
    | nil => exact absurd form String.utf8EncodeChar_ne_nil
    | cons first more => exact List.Lex.nil
  | @cons c rest others _ ih =>
    exact List.Lex.append_left (· < ·) ih (String.utf8EncodeChar c)
  | rel lower => exact encode_append_lt lower _ _

theorem bytes_lt {a b : String} (below : a < b) : bytes a < bytes b := by
  rw [bytes_eq, bytes_eq]
  exact flatMap_encode_lt below

end ScopedGrants.Text
