/-
# Records of fixed-width numbers

A text format for a tuple of numbers: each is written with a fixed number of
decimal digits and followed by a separator. The text is read back as the
tuple, and texts are ordered as their tuples are lexicographically.

Key theorems: `readFields_writeFields`, `writeFields_lt`.
-/
import Sentinel.Lib.Text
import Mathlib.Data.String.Basic
import Mathlib.Data.List.Forall2

namespace FixedWidth

/-! ### Padded numbers -/

/-- The last `width` digits of a number, with leading zeros. -/
def padded : ℕ → ℕ → List Char
  | 0, _ => []
  | width + 1, n => padded width (n / 10) ++ [Nat.digitChar (n % 10)]

@[simp] theorem length_padded : ∀ width n : ℕ, (padded width n).length = width
  | 0, _ => rfl
  | width + 1, n => by rw [padded, List.length_append, length_padded width, List.length_singleton]

theorem isDigit_digitChar {d : ℕ} (h : d < 10) : d.digitChar.isDigit = true := by
  have hall : ∀ d < 10, (Nat.digitChar d).isDigit = true := by decide
  exact hall d h

theorem isDigit_padded : ∀ width n : ℕ, ∀ c ∈ padded width n, c.isDigit = true
  | 0, _, c, hc => nomatch hc
  | width + 1, n, c, hc => by
    rw [padded, List.mem_append, List.mem_singleton] at hc
    rcases hc with hc | rfl
    · exact isDigit_padded width (n / 10) c hc
    · exact isDigit_digitChar (Nat.mod_lt _ (by decide))

/-- The digits are read back as the number. -/
theorem ofDigitChars_padded : ∀ {width n : ℕ}, n < 10 ^ width → Nat.ofDigitChars 10 (padded width n) 0 = n
  | 0, n, h => by
    rw [Nat.pow_zero, Nat.lt_one_iff] at h
    rw [h]
    rfl
  | width + 1, n, h => by
    have hrest : n / 10 < 10 ^ width := by
      rw [Nat.pow_succ] at h
      omega
    rw [padded, Nat.ofDigitChars_append, ofDigitChars_padded hrest,
      Nat.ofDigitChars_cons_digitChar_of_lt_ten (Nat.mod_lt _ (by decide)), Nat.ofDigitChars_nil]
    omega

/-- **Padded numbers are ordered as the numbers.** -/
theorem padded_lt {width n m : ℕ} (hm : m < 10 ^ width) (h : n < m) : padded width n < padded width m := by
  have hn : n < 10 ^ width := Nat.lt_trans h hm
  rcases lt_trichotomy (padded width n) (padded width m) with hlt | heq | hgt
  · exact hlt
  · have hvalue := congrArg (fun digits => Nat.ofDigitChars 10 digits 0) heq
    simp only [ofDigitChars_padded hn, ofDigitChars_padded hm] at hvalue
    omega
  · have hvalue := Text.ofDigitChars_lt 0 (by simp) (isDigit_padded _ _) (isDigit_padded _ _) hgt
    rw [ofDigitChars_padded hn, ofDigitChars_padded hm] at hvalue
    omega

/-- Texts that differ in a first part of one length are ordered by it. -/
theorem append_lt_append : ∀ {a b : List Char} (rest rest' : List Char), a.length = b.length → a < b →
    a ++ rest < b ++ rest'
  | [], [], _, _, _, h => absurd h (List.lt_irrefl [])
  | x :: a, y :: b, rest, rest', hlength, h => by
    rw [List.length_cons, List.length_cons, Nat.add_right_cancel_iff] at hlength
    rw [List.cons_append, List.cons_append]
    rcases List.cons_lt_cons_iff.mp h with hhead | ⟨rfl, htail⟩
    · exact List.cons_lt_cons_iff.mpr (.inl hhead)
    · exact List.cons_lt_cons_iff.mpr (.inr ⟨rfl, append_lt_append rest rest' hlength htail⟩)

/-! ### Records -/

/-- The fields of a record: a width and the separator that follows. -/
abbrev Layout := List (ℕ × Char)

def writeFields : Layout → List ℕ → List Char
  | [], _ => []
  | _ :: _, [] => []
  | (width, separator) :: layout, n :: fields => padded width n ++ separator :: writeFields layout fields

/-- Every number fits its field. -/
def Fits : Layout → List ℕ → Prop
  | [], [] => True
  | (width, _) :: layout, n :: fields => n < 10 ^ width ∧ Fits layout fields
  | _, _ => False

/-- **Records are ordered as their fields.** -/
theorem writeFields_lt : ∀ {layout : Layout} {fields fields' : List ℕ}, Fits layout fields → Fits layout fields' →
    fields < fields' → writeFields layout fields < writeFields layout fields'
  | [], [], [], _, _, h => absurd h (List.lt_irrefl [])
  | (width, separator) :: layout, n :: fields, m :: fields', ⟨_, hfits⟩, ⟨hm, hfits'⟩, h => by
    rw [writeFields, writeFields]
    rcases List.cons_lt_cons_iff.mp h with hhead | ⟨rfl, htail⟩
    · exact append_lt_append _ _ (by simp) (padded_lt hm hhead)
    · exact List.append_left_lt (List.cons_lt_cons_iff.mpr (.inr ⟨rfl, writeFields_lt hfits hfits' htail⟩))

/-- The number that the first digits spell, and the rest. -/
def readDigits (width : ℕ) (text : List Char) : Option (ℕ × List Char) :=
  let digits := text.take width
  if digits.length = width ∧ digits.all Char.isDigit then
    some (Nat.ofDigitChars 10 digits 0, text.drop width)
  else none

/-- The fields of a record, its letters in either case, and the rest. -/
def readFields : Layout → List Char → Option (List ℕ × List Char)
  | [], text => some ([], text)
  | (width, separator) :: layout, text => do
    let (n, text) ← readDigits width text
    match text with
    | c :: text =>
      if c.toUpper = separator then do
        let (fields, text) ← readFields layout text
        return (n :: fields, text)
      else none
    | [] => none

theorem readDigits_padded {width n : ℕ} (h : n < 10 ^ width) (rest : List Char) :
    readDigits width (padded width n ++ rest) = some (n, rest) := by
  have htake : (padded width n ++ rest).take width = padded width n := List.take_left' (length_padded width n)
  have hdrop : (padded width n ++ rest).drop width = rest := List.drop_left' (length_padded width n)
  rw [readDigits, htake, hdrop, ofDigitChars_padded h]
  exact if_pos ⟨length_padded width n, List.all_eq_true.mpr (isDigit_padded width n)⟩

/-- **What is written is read back**, with its letters in either case. -/
theorem readFields_writeFields : ∀ {layout written : Layout} {fields : List ℕ} (rest : List Char),
    List.Forall₂ (fun field field' => field.1 = field'.1 ∧ field'.2.toUpper = field.2) layout written →
    Fits written fields → readFields layout (writeFields written fields ++ rest) = some (fields, rest)
  | [], [], [], rest, _, _ => by
    rw [writeFields, List.nil_append, readFields]
  | (width, separator) :: layout, (width', letter) :: written, n :: fields, rest, .cons ⟨hwidth, hletter⟩ h, ⟨hn, hfits⟩ => by
    simp only at hwidth hletter
    subst hwidth
    rw [writeFields, List.append_assoc, List.cons_append, readFields, readDigits_padded hn]
    simp only [Option.bind_eq_bind, Option.bind_some, if_pos hletter, readFields_writeFields rest h hfits]
    rfl

end FixedWidth
