/-
# Text

What a standard library's string functions do, over a string's characters:
trimming Unicode white space, ASCII case folding, and the decimal spelling of
an unsigned 64-bit integer with its parser.

Key theorems: `parseU64_toText`, `ofDigitChars_lt`, `toDigits_ofDigitChars`, `append_separator_inj`.
-/
import Mathlib.Data.Nat.Notation
import Mathlib.Algebra.Group.Nat.Defs

namespace Text

/-- A text interpolated into another is itself. -/
@[simp] theorem toString_eq (s : String) : toString s = s := rfl

/-- Unicode's White_Space property. -/
def isWhitespace (c : Char) : Bool :=
  let n := c.toNat
  (9 ≤ n && n ≤ 13) || n = 0x20 || n = 0x85 || n = 0xa0 || n = 0x1680 ||
    (0x2000 ≤ n && n ≤ 0x200a) || n = 0x2028 || n = 0x2029 || n = 0x202f || n = 0x205f || n = 0x3000

/-- The string without its trailing characters that satisfy `p`. -/
def trimEnd (p : Char → Bool) (s : String) : String :=
  String.ofList (s.toList.reverse.dropWhile p).reverse

/-- The string without white space at either end. -/
def trim (s : String) : String :=
  trimEnd isWhitespace (String.ofList (s.toList.dropWhile isWhitespace))

def toAsciiLowercase (s : String) : String :=
  String.ofList (s.toList.map Char.toLower)

/-! ### Unsigned decimal integers -/

/-- The decimal text of an unsigned integer. -/
def toText (n : UInt64) : String := Nat.repr n.toNat

/-- The characters after an optional plus sign. -/
def stripPlus : List Char → List Char
  | '+' :: rest => rest
  | all => all

/-- A parser of unsigned 64-bit integers: digits, with a leading plus sign
and leading zeros allowed. -/
def parseU64 (s : String) : Option UInt64 :=
  let digits := stripPlus s.toList
  if digits ≠ [] ∧ digits.all Char.isDigit ∧ Nat.ofDigitChars 10 digits 0 < 2 ^ 64 then
    some (UInt64.ofNat (Nat.ofDigitChars 10 digits 0))
  else none

theorem stripPlus_of_digits : ∀ l : List Char, (∀ c ∈ l, c.isDigit = true) → stripPlus l = l
  | [], _ => rfl
  | c :: l, h => by
    have hc : c ≠ '+' := fun he => by
      have := h c List.mem_cons_self
      rw [he] at this
      exact absurd this (by decide)
    unfold stripPlus
    split
    · rename_i he
      exact absurd (List.cons.inj he).1 hc
    · rfl

theorem isDigit_toText (n : UInt64) : ∀ c ∈ (toText n).toList, c.isDigit = true := fun _ hc =>
  Nat.isDigit_of_mem_toDigits (by decide) (by decide) (Nat.toList_repr ▸ hc)

/-- What is written is read back. -/
theorem parseU64_toText (n : UInt64) : parseU64 (toText n) = some n := by
  have hl : (toText n).toList = Nat.toDigits 10 n.toNat := Nat.toList_repr
  have hd := isDigit_toText n
  have hne : (toText n).toList ≠ [] := by rw [hl]; exact Nat.toDigits_ne_nil
  have hval : Nat.ofDigitChars 10 (toText n).toList 0 = n.toNat := by
    rw [hl]; exact Nat.ofDigitChars_ten_toDigits
  unfold parseU64
  simp only [stripPlus_of_digits _ hd, hval]
  rw [if_pos ⟨hne, List.all_eq_true.mpr hd, n.toNat_lt⟩, UInt64.ofNat_toNat]

/-- The first digit of a positive number is not zero. -/
theorem toDigits_head {n : ℕ} (h : 0 < n) : ∃ c digits, Nat.toDigits 10 n = c :: digits ∧ '1' ≤ c ∧ c ≤ '9' := by
  induction n using Nat.strongRecOn with
  | ind n ih =>
    by_cases hsmall : n < 10
    · refine ⟨n.digitChar, [], Nat.toDigits_of_lt_base hsmall, ?_⟩
      have hall : ∀ k < 10, 0 < k → '1' ≤ Nat.digitChar k ∧ Nat.digitChar k ≤ '9' := by decide
      exact hall n hsmall h
    · obtain ⟨c, digits, hdigits, hrange⟩ := ih (n / 10) (by omega) (by omega)
      exact ⟨c, digits ++ [(n % 10).digitChar], by
        rw [Nat.toDigits_of_base_le (by decide) (by omega), hdigits, List.cons_append], hrange⟩

theorem digit_lt {c : Char} (h : c.isDigit) : '0'.toNat ≤ c.toNat ∧ c.toNat - '0'.toNat < 10 := by
  simp only [Char.isDigit, Bool.and_eq_true, decide_eq_true_eq] at h
  have hlow : 48 ≤ c.toNat := h.1
  have hhigh : c.toNat ≤ 57 := h.2
  have hzero : '0'.toNat = 48 := rfl
  omega

/-- Digits after a number multiply it and add less than the next multiple. -/
theorem ofDigitChars_bounds : ∀ (digits : List Char) (init : ℕ), (∀ c ∈ digits, c.isDigit) →
    10 ^ digits.length * init ≤ Nat.ofDigitChars 10 digits init ∧
      Nat.ofDigitChars 10 digits init < 10 ^ digits.length * (init + 1)
  | [], init, _ => by simp
  | c :: digits, init, h => by
    have hdigit := digit_lt (h c List.mem_cons_self)
    obtain ⟨hlow, hhigh⟩ := ofDigitChars_bounds digits (10 * init + (c.toNat - '0'.toNat)) fun c hc =>
      h c (List.mem_cons_of_mem _ hc)
    have hfirst : 10 ^ digits.length * (10 * init) ≤ 10 ^ digits.length * (10 * init + (c.toNat - '0'.toNat)) :=
      Nat.mul_le_mul_left _ (by omega)
    have hlast : 10 ^ digits.length * (10 * init + (c.toNat - '0'.toNat) + 1) ≤ 10 ^ digits.length * (10 * (init + 1)) :=
      Nat.mul_le_mul_left _ (by omega)
    rw [Nat.ofDigitChars_cons, List.length_cons, Nat.pow_succ, Nat.mul_assoc, Nat.mul_assoc]
    omega

/-- **Numbers with as many digits are ordered as their digits.** -/
theorem ofDigitChars_lt : ∀ {digits digits' : List Char} (init : ℕ), digits.length = digits'.length →
    (∀ c ∈ digits, c.isDigit) → (∀ c ∈ digits', c.isDigit) → digits < digits' →
    Nat.ofDigitChars 10 digits init < Nat.ofDigitChars 10 digits' init
  | [], [], _, _, _, _, hlt => absurd hlt (List.lt_irrefl [])
  | [], _ :: _, _, hlength, _, _, _ => nomatch hlength
  | _ :: _, [], _, hlength, _, _, _ => nomatch hlength
  | c :: digits, c' :: digits', init, hlength, h, h', hlt => by
    rw [List.length_cons, List.length_cons, Nat.add_right_cancel_iff] at hlength
    rw [Nat.ofDigitChars_cons, Nat.ofDigitChars_cons]
    have hrest := fun c hc => h c (List.mem_cons_of_mem _ hc)
    have hrest' := fun c hc => h' c (List.mem_cons_of_mem _ hc)
    rcases List.cons_lt_cons_iff.mp hlt with hfirst | ⟨rfl, htail⟩
    · -- the first digits differ, so the rest cannot make up for it
      have hc := digit_lt (h c List.mem_cons_self)
      have hc' := digit_lt (h' c' List.mem_cons_self)
      have hchars : c.toNat < c'.toNat := hfirst
      calc Nat.ofDigitChars 10 digits (10 * init + (c.toNat - '0'.toNat))
          < 10 ^ digits.length * (10 * init + (c.toNat - '0'.toNat) + 1) := (ofDigitChars_bounds digits _ hrest).2
        _ ≤ 10 ^ digits.length * (10 * init + (c'.toNat - '0'.toNat)) := Nat.mul_le_mul_left _ (by omega)
        _ = 10 ^ digits'.length * (10 * init + (c'.toNat - '0'.toNat)) := by rw [hlength]
        _ ≤ Nat.ofDigitChars 10 digits' (10 * init + (c'.toNat - '0'.toNat)) := (ofDigitChars_bounds digits' _ hrest').1
    · exact ofDigitChars_lt _ hlength hrest hrest' htail

theorem digitChar_of_isDigit {c : Char} (h : c.isDigit) : (c.toNat - '0'.toNat).digitChar = c := by
  have hdigit := digit_lt h
  have hzero : '0'.toNat = 48 := rfl
  refine Char.toNat_inj.mp ?_
  rw [Nat.toNat_digitChar_of_lt_ten hdigit.2]
  omega

/-- Digits after a positive number extend its digits. -/
theorem toDigits_ofDigitChars_append : ∀ (digits : List Char) (init : ℕ), 0 < init → (∀ c ∈ digits, c.isDigit) →
    Nat.toDigits 10 (Nat.ofDigitChars 10 digits init) = Nat.toDigits 10 init ++ digits
  | [], init, _, _ => by rw [Nat.ofDigitChars_nil, List.append_nil]
  | c :: digits, init, hinit, h => by
    have hc := h c List.mem_cons_self
    have hlast : Nat.toDigits 10 (c.toNat - '0'.toNat) = [c] := by
      rw [Nat.toDigits_of_lt_base (digit_lt hc).2, digitChar_of_isDigit hc]
    have hrest := toDigits_ofDigitChars_append digits (10 * init + (c.toNat - '0'.toNat)) (by omega) fun c hc =>
      h c (List.mem_cons_of_mem _ hc)
    rw [Nat.ofDigitChars_cons, hrest, ← Nat.toDigits_append_toDigits (by decide) hinit (digit_lt hc).2, hlast,
      List.append_assoc, List.singleton_append]

/-- **Digits without a leading zero** are those of their number. -/
theorem toDigits_ofDigitChars {c : Char} {digits : List Char} (hc : '1' ≤ c) (h : ∀ d ∈ c :: digits, d.isDigit) :
    Nat.toDigits 10 (Nat.ofDigitChars 10 (c :: digits) 0) = c :: digits := by
  have hdigit := digit_lt (h c List.mem_cons_self)
  have hone : '1'.toNat ≤ c.toNat := hc
  have hpositive : 0 < c.toNat - '0'.toNat := by
    have : '1'.toNat = 49 := rfl
    have : '0'.toNat = 48 := rfl
    omega
  rw [Nat.ofDigitChars_cons, Nat.mul_zero, Nat.zero_add,
    toDigits_ofDigitChars_append digits _ hpositive fun d hd => h d (List.mem_cons_of_mem _ hd),
    Nat.toDigits_of_lt_base hdigit.2, digitChar_of_isDigit (h c List.mem_cons_self), List.singleton_append]

/-- A text of twenty digits is at most that of the greatest integer. -/
theorem toText_le_max {n : UInt64} (h : (toText n).length = 20) : toText n ≤ "18446744073709551615" := by
  show ¬("18446744073709551615".toList < (toText n).toList)
  intro hlt
  have hlength : "18446744073709551615".toList.length = (toText n).toList.length := by
    rw [String.length_toList, String.length_toList, h]
    rfl
  have hvalue := ofDigitChars_lt 0 hlength (by simp) (isDigit_toText n) hlt
  have hlist : (toText n).toList = Nat.toDigits 10 n.toNat := Nat.toList_repr
  rw [hlist, Nat.ofDigitChars_ten_toDigits] at hvalue
  have hmax : Nat.ofDigitChars 10 "18446744073709551615".toList 0 = 2 ^ 64 - 1 := rfl
  have := n.toNat_lt
  omega

theorem length_toText_le (n : UInt64) : (toText n).length ≤ 20 := by
  have hn := n.toNat_lt
  rw [toText, Nat.length_repr_le_iff (by decide)]
  omega

/-! ### Separators -/

/-- What a separator divides is determined, if the left part is free of it. -/
theorem append_separator_inj {c : Char} : ∀ {a a' b b' : List Char}, c ∉ a → c ∉ a' →
    a ++ c :: b = a' ++ c :: b' → a = a' ∧ b = b'
  | [], [], _, _, _, _, h => ⟨rfl, (List.cons.inj h).2⟩
  | [], x :: _, _, _, _, h', h => absurd ((List.cons.inj h).1 ▸ List.mem_cons_self) h'
  | x :: _, [], _, _, h', _, h => absurd ((List.cons.inj h).1 ▸ List.mem_cons_self) h'
  | x :: a, y :: a', b, b', h1, h2, h => by
    rw [List.cons_append, List.cons_append, List.cons.injEq] at h
    obtain ⟨rfl, h⟩ := h
    obtain ⟨rfl, hb⟩ := append_separator_inj (fun hm => h1 (List.mem_cons_of_mem _ hm))
      (fun hm => h2 (List.mem_cons_of_mem _ hm)) h
    exact ⟨rfl, hb⟩

end Text
