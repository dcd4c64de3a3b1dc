/-
# Bytes of a text

The UTF-8 bytes of a string, which is what a binary collation and a byte-wise
comparison of strings compare. UTF-8 keeps the order of the code points, so
both agree with the order of the characters.

Key theorems: `bytes_lt_iff`, `bytes_le_iff`.
-/
import Mathlib.Data.String.Basic

namespace Text

/-- The UTF-8 bytes of a string. -/
def bytes (s : String) : List UInt8 := s.toList.flatMap String.utf8EncodeChar

/-- The encodings of two characters differ as the characters do, whatever
follows them: no encoding is a prefix of another. -/
theorem utf8EncodeChar_lt {c d : Char} (h : c < d) (rest rest' : List UInt8) :
    String.utf8EncodeChar c ++ rest < String.utf8EncodeChar d ++ rest' := by
  have hlt : c.val.toNat < d.val.toNat := h
  have hd : d.val.toNat < 1114112 := by
    rcases d.valid with hd | hd
    · exact Nat.lt_trans hd (by decide)
    · exact hd.2
  have h4096 (n : ℕ) : n / 4096 = n / 64 / 64 := by rw [Nat.div_div_eq_div_mul]
  have h262144 (n : ℕ) : n / 262144 = n / 64 / 64 / 64 := by rw [Nat.div_div_eq_div_mul, Nat.div_div_eq_div_mul]
  unfold String.utf8EncodeChar
  simp only [h4096, h262144]
  split_ifs <;>
    simp (disch := omega) only [List.cons_append, List.nil_append, List.cons_lt_cons_iff, UInt8.lt_iff_toNat_lt,
      ← UInt8.toNat_inj, UInt8.toNat_ofNat', Nat.mod_eq_of_lt] <;>
    omega

theorem flatMap_utf8EncodeChar_lt : ∀ {l l' : List Char}, l < l' →
    l.flatMap String.utf8EncodeChar < l'.flatMap String.utf8EncodeChar
  | _, [], h => absurd h (List.not_lt_nil _)
  | [], c :: l', _ => by
    rw [List.flatMap_nil, List.flatMap_cons]
    obtain ⟨byte, bytes, hbytes⟩ := List.exists_cons_of_ne_nil (String.utf8EncodeChar_ne_nil (c := c))
    rw [hbytes]
    exact List.nil_lt_cons _ _
  | c :: l, d :: l', h => by
    rw [List.flatMap_cons, List.flatMap_cons]
    rcases List.cons_lt_cons_iff.mp h with hhead | ⟨rfl, htail⟩
    · exact utf8EncodeChar_lt hhead _ _
    · exact List.append_left_lt (flatMap_utf8EncodeChar_lt htail)

theorem bytes_lt {a b : String} (h : a < b) : bytes a < bytes b :=
  flatMap_utf8EncodeChar_lt h

/-- **Texts are ordered as their bytes.** -/
theorem bytes_lt_iff {a b : String} : bytes a < bytes b ↔ a < b := by
  refine ⟨fun h => ?_, bytes_lt⟩
  rcases lt_trichotomy a b with hlt | rfl | hgt
  · exact hlt
  · exact absurd h (List.lt_irrefl _)
  · exact absurd h (List.lt_asymm (bytes_lt hgt))

theorem bytes_le_iff {a b : String} : bytes a ≤ bytes b ↔ a ≤ b := by
  rw [← List.not_lt, bytes_lt_iff, String.not_lt]

end Text
