/-
# Rounding keeps order

The double nearest to a larger number is no smaller, and doubles of one sign
are ordered as their bits. So a share of a whole, computed in doubles, is
between zero and one.

Key theorems: `encode_mono`, `magnitude_mono`, `inUnit_div_ofNat`, `div_ofSign`.
-/
import Sentinel.Lib.Binary64
import Mathlib.Algebra.Order.Field.Power
import Mathlib.Data.Nat.Log
import Mathlib.Tactic.Linarith
import Mathlib.Tactic.Positivity
import Mathlib.Tactic.Ring

namespace Binary64

/-! ### Rounding to a natural number -/

section Round

variable {n d : ℕ}

/-- What is rounded is at most half away, and at a tie the result is even. -/
theorem roundHalfEven_spec (n d : ℕ) (hd : 0 < d) :
    2 * (roundHalfEven n d * d) ≤ 2 * n + d ∧ 2 * n ≤ 2 * (roundHalfEven n d * d) + d ∧
      (2 * (roundHalfEven n d * d) = 2 * n + d ∨ 2 * n = 2 * (roundHalfEven n d * d) + d → roundHalfEven n d % 2 = 0) := by
  have hsplit := Nat.div_add_mod n d
  have hrest := Nat.mod_lt n hd
  have hcomm : n / d * d = d * (n / d) := Nat.mul_comm _ _
  unfold roundHalfEven
  dsimp only
  split
  · rw [hcomm]
    omega
  · split
    · rw [Nat.add_mul, hcomm, Nat.one_mul]
      omega
    · rcases Nat.mod_two_eq_zero_or_one (n / d) with heven | hodd
      · rw [heven, Nat.add_zero, hcomm]
        omega
      · rw [hodd, Nat.add_mul, hcomm, Nat.one_mul]
        omega

/-- **Rounding to a natural number is monotone.** -/
theorem roundHalfEven_mono {n' d' : ℕ} (hd : 0 < d) (hd' : 0 < d') (h : n * d' ≤ n' * d) :
    roundHalfEven n d ≤ roundHalfEven n' d' := by
  obtain ⟨hlow, -, htie⟩ := roundHalfEven_spec n d hd
  obtain ⟨-, hhigh, htie'⟩ := roundHalfEven_spec n' d' hd'
  by_contra hlt
  set m := roundHalfEven n d
  set m' := roundHalfEven n' d'
  have hstep : (m' + 1) * d ≤ m * d := Nat.mul_le_mul_right d (by omega)
  -- `m - 1/2 ≤ n / d ≤ n' / d' ≤ m' + 1/2` leaves `m = m' + 1` only, with a tie on both sides
  have h1 : (2 * (m * d)) * d' ≤ (2 * n + d) * d' := Nat.mul_le_mul_right d' hlow
  have h2 : 2 * n' * d ≤ (2 * (m' * d') + d') * d := Nat.mul_le_mul_right d hhigh
  have h3 : (2 * ((m' + 1) * d)) * d' ≤ (2 * (m * d)) * d' := Nat.mul_le_mul_right d' (by omega)
  have h4 : (2 * ((m' + 1) * d)) * d' = (2 * (m' * d') + d') * d + d * d' := by ring
  have h5 : (2 * n + d) * d' = 2 * (n * d') + d * d' := by ring
  have h6 : 2 * n' * d = 2 * (n' * d) := by ring
  have heq : 2 * n' * d = (2 * (m' * d') + d') * d := by omega
  have heq' : (2 * (m * d)) * d' = (2 * n + d) * d' := by omega
  have heq'' : (2 * ((m' + 1) * d)) * d' = (2 * (m * d)) * d' := by omega
  have hodd := htie (.inl (Nat.eq_of_mul_eq_mul_right hd' heq'))
  have heven := htie' (.inr (Nat.eq_of_mul_eq_mul_right hd heq))
  have hnext : 2 * ((m' + 1) * d) = 2 * (m * d) := Nat.eq_of_mul_eq_mul_right hd' heq''
  have hsucc : m' + 1 = m := Nat.eq_of_mul_eq_mul_right hd (by omega)
  omega

theorem roundHalfEven_one (m : ℕ) : roundHalfEven m 1 = m := by
  simp [roundHalfEven, Nat.mod_one]

theorem roundHalfEven_le {m : ℕ} (hd : 0 < d) (h : n ≤ m * d) : roundHalfEven n d ≤ m := by
  have hcross : n * 1 ≤ m * d := by omega
  have hle := roundHalfEven_mono hd Nat.one_pos hcross
  rwa [roundHalfEven_one] at hle

theorem le_roundHalfEven {m : ℕ} (hd : 0 < d) (h : m * d ≤ n) : m ≤ roundHalfEven n d := by
  have hcross : m * d ≤ n * 1 := by omega
  have hle := roundHalfEven_mono Nat.one_pos hd hcross
  rwa [roundHalfEven_one] at hle

end Round

/-! ### The exponent -/

/-- A power of two as a fraction of natural numbers. -/
theorem two_zpow_eq (e : ℤ) : (2 : ℚ) ^ e = (2 : ℚ) ^ e.toNat / (2 : ℚ) ^ (-e).toNat := by
  rcases le_total 0 e with he | he
  · rw [Int.toNat_eq_zero.mpr (by omega : -e ≤ 0), pow_zero, div_one, ← zpow_natCast, Int.toNat_of_nonneg he]
  · rw [Int.toNat_eq_zero.mpr he, pow_zero, one_div, ← zpow_natCast, Int.toNat_of_nonneg (by omega), zpow_neg, inv_inv]

section Exponent

variable {n d : ℕ}

theorem div_lt_two_zpow_iff (hd : 0 < d) (e : ℤ) :
    (n : ℚ) / d < (2 : ℚ) ^ e ↔ n * 2 ^ (-e).toNat < d * 2 ^ e.toNat := by
  have hd : (0 : ℚ) < d := by exact_mod_cast hd
  rw [two_zpow_eq, div_lt_div_iff₀ hd (by positivity), mul_comm _ (d : ℚ)]
  exact_mod_cast Iff.rfl

/-- The exponent's power of two is the greatest that is at most `n / d`. -/
theorem floorLog2_spec (hn : 0 < n) (hd : 0 < d) :
    (2 : ℚ) ^ floorLog2 n d ≤ (n : ℚ) / d ∧ (n : ℚ) / d < (2 : ℚ) ^ (floorLog2 n d + 1) := by
  have hnum : 2 ^ Nat.log2 n ≤ n ∧ n < 2 ^ (Nat.log2 n + 1) := ⟨Nat.log2_self_le hn.ne', Nat.lt_log2_self⟩
  have hden : 2 ^ Nat.log2 d ≤ d ∧ d < 2 ^ (Nat.log2 d + 1) := ⟨Nat.log2_self_le hd.ne', Nat.lt_log2_self⟩
  have hdpos : (0 : ℚ) < d := by exact_mod_cast hd
  set a := Nat.log2 n
  set b := Nat.log2 d
  have hn1 : (2 : ℚ) ^ (a : ℤ) ≤ n := by exact_mod_cast hnum.1
  have hn2 : (n : ℚ) < 2 ^ ((a : ℤ) + 1) := by exact_mod_cast hnum.2
  have hd1 : (2 : ℚ) ^ (b : ℤ) ≤ d := by exact_mod_cast hden.1
  have hd2 : (d : ℚ) < 2 ^ ((b : ℤ) + 1) := by exact_mod_cast hden.2
  -- the quotient is within a factor of two of `2 ^ (a - b)` on either side
  have hlow : (2 : ℚ) ^ ((a : ℤ) - b - 1) ≤ (n : ℚ) / d := by
    rw [le_div_iff₀ hdpos]
    calc (2 : ℚ) ^ ((a : ℤ) - b - 1) * d ≤ 2 ^ ((a : ℤ) - b - 1) * 2 ^ ((b : ℤ) + 1) := by gcongr
      _ = 2 ^ (a : ℤ) := by rw [← zpow_add₀ two_ne_zero]; congr 1; ring
      _ ≤ n := hn1
  have hhigh : (n : ℚ) / d < 2 ^ ((a : ℤ) - b + 1) := by
    rw [div_lt_iff₀ hdpos]
    calc (n : ℚ) < 2 ^ ((a : ℤ) + 1) := hn2
      _ = 2 ^ ((a : ℤ) - b + 1) * 2 ^ (b : ℤ) := by rw [← zpow_add₀ two_ne_zero]; congr 1; ring
      _ ≤ 2 ^ ((a : ℤ) - b + 1) * d := by gcongr
  unfold floorLog2
  dsimp only
  split
  case isTrue hlt =>
    rw [← div_lt_two_zpow_iff hd] at hlt
    refine ⟨hlow, ?_⟩
    rwa [Int.sub_add_cancel]
  case isFalse hge =>
    rw [← div_lt_two_zpow_iff hd, not_lt] at hge
    exact ⟨hge, hhigh⟩

/-- The exponent is monotone. -/
theorem floorLog2_mono {n' d' : ℕ} (hn : 0 < n) (hd : 0 < d) (hn' : 0 < n') (hd' : 0 < d') (h : (n : ℚ) / d ≤ n' / d') :
    floorLog2 n d ≤ floorLog2 n' d' := by
  have hlt : (2 : ℚ) ^ floorLog2 n d < 2 ^ (floorLog2 n' d' + 1) :=
    lt_of_le_of_lt ((floorLog2_spec hn hd).1.trans h) (floorLog2_spec hn' hd').2
  have := (zpow_lt_zpow_iff_right₀ (by norm_num : (1 : ℚ) < 2)).mp hlt
  omega

/-- The significand at an exponent is at most `m`. -/
theorem significand_le (hd : 0 < d) {e : ℤ} {m : ℕ} (h : (n : ℚ) / d ≤ m * (2 : ℚ) ^ e) :
    roundHalfEven (n * 2 ^ (-e).toNat) (d * 2 ^ e.toNat) ≤ m := by
  have hdpos : (0 : ℚ) < d := by exact_mod_cast hd
  rw [two_zpow_eq, mul_div_assoc', div_le_div_iff₀ hdpos (by positivity)] at h
  refine roundHalfEven_le (by positivity) ?_
  have hnat : n * 2 ^ (-e).toNat ≤ m * 2 ^ e.toNat * d := by exact_mod_cast h
  calc n * 2 ^ (-e).toNat ≤ m * 2 ^ e.toNat * d := hnat
    _ = m * (d * 2 ^ e.toNat) := by ring

/-- The significand at an exponent is at least `m`. -/
theorem le_significand (hd : 0 < d) {e : ℤ} {m : ℕ} (h : m * (2 : ℚ) ^ e ≤ (n : ℚ) / d) :
    m ≤ roundHalfEven (n * 2 ^ (-e).toNat) (d * 2 ^ e.toNat) := by
  have hdpos : (0 : ℚ) < d := by exact_mod_cast hd
  rw [two_zpow_eq, mul_div_assoc', div_le_div_iff₀ (by positivity) hdpos] at h
  refine le_roundHalfEven (by positivity) ?_
  have hnat : m * 2 ^ e.toNat * d ≤ n * 2 ^ (-e).toNat := by exact_mod_cast h
  calc m * (d * 2 ^ e.toNat) = m * 2 ^ e.toNat * d := by ring
    _ ≤ n * 2 ^ (-e).toNat := hnat

theorem significand_mono {n' d' : ℕ} (hd : 0 < d) (hd' : 0 < d') (h : n * d' ≤ n' * d) (e : ℤ) :
    roundHalfEven (n * 2 ^ (-e).toNat) (d * 2 ^ e.toNat) ≤ roundHalfEven (n' * 2 ^ (-e).toNat) (d' * 2 ^ e.toNat) := by
  refine roundHalfEven_mono (by positivity) (by positivity) ?_
  calc n * 2 ^ (-e).toNat * (d' * 2 ^ e.toNat) = n * d' * (2 ^ (-e).toNat * 2 ^ e.toNat) := by ring
    _ ≤ n' * d * (2 ^ (-e).toNat * 2 ^ e.toNat) := Nat.mul_le_mul_right _ h
    _ = n' * 2 ^ (-e).toNat * (d * 2 ^ e.toNat) := by ring

/-- **The nearest double is monotone**, as its bits. -/
theorem encode_mono {n' d' : ℕ} (hd : 0 < d) (hd' : 0 < d') (h : n * d' ≤ n' * d) : encode n d ≤ encode n' d' := by
  unfold encode
  by_cases hn : n = 0
  · rw [if_pos hn]
    exact Nat.zero_le _
  have hpos : 0 < n := Nat.pos_of_ne_zero hn
  have hpos' : 0 < n' := by
    by_contra hzero
    have hn' : n' = 0 := by omega
    rw [hn', Nat.zero_mul] at h
    have := Nat.mul_pos hpos hd'
    omega
  have hquot : (n : ℚ) / d ≤ n' / d' := by
    rw [div_le_div_iff₀ (by exact_mod_cast hd) (by exact_mod_cast hd')]
    exact_mod_cast h
  have hexponent := floorLog2_mono hpos hd hpos' hd' hquot
  have hupper := (floorLog2_spec hpos hd).2
  have hlower := (floorLog2_spec hpos' hd').1
  rw [if_neg hn, if_neg hpos'.ne']
  dsimp only
  refine min_le_min_right _ ?_
  rcases eq_or_lt_of_le (show Max.max (floorLog2 n d - 52) (-1074) ≤ Max.max (floorLog2 n' d' - 52) (-1074) by omega) with
    heq | hlt
  · rw [heq]
    exact Nat.add_le_add_left (significand_mono hd hd' h _) _
  · -- the smaller exponent's significand is at most `2 ^ 53`, the larger's at least `2 ^ 52`
    set e := Max.max (floorLog2 n d - 52) (-1074) with he
    set e' := Max.max (floorLog2 n' d' - 52) (-1074) with he'
    have hsmall : roundHalfEven (n * 2 ^ (-e).toNat) (d * 2 ^ e.toNat) ≤ 2 ^ 53 := by
      refine significand_le hd ?_
      calc (n : ℚ) / d ≤ 2 ^ (floorLog2 n d + 1) := hupper.le
        _ ≤ 2 ^ ((53 : ℤ) + e) := zpow_le_zpow_right₀ (by norm_num) (by omega)
        _ = ((2 ^ 53 : ℕ) : ℚ) * 2 ^ e := by rw [zpow_add₀ two_ne_zero]; norm_num
    have hlarge : 2 ^ 52 ≤ roundHalfEven (n' * 2 ^ (-e').toNat) (d' * 2 ^ e'.toNat) := by
      refine le_significand hd' ?_
      calc ((2 ^ 52 : ℕ) : ℚ) * 2 ^ e' = 2 ^ ((52 : ℤ) + e') := by rw [zpow_add₀ two_ne_zero]; norm_num
        _ ≤ 2 ^ floorLog2 n' d' := zpow_le_zpow_right₀ (by norm_num) (by omega)
        _ ≤ n' / d' := hlower
    have hstep : (e + 1074).toNat + 1 ≤ (e' + 1074).toNat := by omega
    have hscaled : ((e + 1074).toNat + 1) * 2 ^ 52 ≤ (e' + 1074).toNat * 2 ^ 52 := Nat.mul_le_mul_right _ hstep
    omega

end Exponent

/-! ### Doubles of one sign -/

theorem encode_le (n d : ℕ) : encode n d ≤ 0x7ff0000000000000 := by
  unfold encode
  split
  · exact Nat.zero_le _
  · exact Nat.min_le_right _ _

section Low

variable {low : ℕ}

theorem toNat_ofSign (h : low < 2 ^ 63) (negative : Bool) :
    (ofSign negative low).bits.toNat = low + if negative then 2 ^ 63 else 0 := by
  rw [ofSign, UInt64.toNat_ofNat']
  apply Nat.mod_eq_of_lt
  split <;> omega

theorem exponent_ofSign (h : low < 2 ^ 63) (negative : Bool) : (ofSign negative low).exponent = low / 2 ^ 52 := by
  rw [exponent, toNat_ofSign h]
  split <;> omega

theorem fraction_ofSign (h : low < 2 ^ 63) (negative : Bool) : (ofSign negative low).fraction = low % 2 ^ 52 := by
  rw [fraction, toNat_ofSign h]
  split <;> omega

theorem negative_ofSign (h : low < 2 ^ 63) (sign : Bool) : (ofSign sign low).negative = sign := by
  rw [negative, toNat_ofSign h]
  cases sign
  · simp only [Bool.false_eq_true, if_false, Nat.add_zero, decide_eq_false_iff_not]
    omega
  · simp

end Low

theorem fraction_lt (x : Binary64) : x.fraction < 2 ^ 52 := Nat.mod_lt _ (by decide)

/-- The magnitude as a significand and a power of two. -/
theorem magnitude_eq (x : Binary64) :
    x.magnitude = ((if x.exponent = 0 then x.fraction else 2 ^ 52 + x.fraction : ℕ) : ℚ) *
      (2 : ℚ) ^ ((Max.max x.exponent 1 : ℕ) - 1075 : ℤ) := by
  unfold magnitude
  dsimp only
  generalize Max.max x.exponent 1 = shift
  generalize (if x.exponent = 0 then x.fraction else 2 ^ 52 + x.fraction) = significand
  split
  case isTrue h =>
    rw [Nat.cast_mul, Nat.cast_pow, Nat.cast_ofNat, ← zpow_natCast, Nat.cast_sub h]
    rfl
  case isFalse h =>
    have hshift : (shift : ℤ) - 1075 = -((1075 - shift : ℕ) : ℤ) := by omega
    rw [hshift, zpow_neg, zpow_natCast, Rat.mkRat_eq_div, Nat.cast_pow, Nat.cast_ofNat, div_eq_mul_inv]
    rfl

theorem magnitude_nonneg (x : Binary64) : 0 ≤ x.magnitude := by
  rw [magnitude_eq]
  positivity

/-- **Magnitudes are ordered as the bits below the sign.** -/
theorem magnitude_mono {x y : Binary64} (h : x.exponent * 2 ^ 52 + x.fraction ≤ y.exponent * 2 ^ 52 + y.fraction) :
    x.magnitude ≤ y.magnitude := by
  have hx := x.fraction_lt
  have hy := y.fraction_lt
  rw [magnitude_eq, magnitude_eq]
  rcases eq_or_lt_of_le (show x.exponent ≤ y.exponent by omega) with heq | hlt
  · rw [heq]
    gcongr
    split <;> omega
  · rw [if_neg (show y.exponent ≠ 0 by omega)]
    by_cases hzero : x.exponent = 0
    · rw [if_pos hzero, hzero]
      have hsig : (x.fraction : ℚ) ≤ ((2 ^ 52 + y.fraction : ℕ) : ℚ) := by exact_mod_cast (by omega)
      have hpow : (2 : ℚ) ^ ((Max.max 0 1 : ℕ) - 1075 : ℤ) ≤ 2 ^ ((Max.max y.exponent 1 : ℕ) - 1075 : ℤ) :=
        zpow_le_zpow_right₀ (by norm_num) (by omega)
      exact mul_le_mul hsig hpow (by positivity) (by positivity)
    · rw [if_neg hzero]
      -- one exponent more doubles the unit, and a significand is less than twice the least
      calc ((2 ^ 52 + x.fraction : ℕ) : ℚ) * 2 ^ ((Max.max x.exponent 1 : ℕ) - 1075 : ℤ)
          ≤ ((2 ^ 53 : ℕ) : ℚ) * 2 ^ ((Max.max x.exponent 1 : ℕ) - 1075 : ℤ) := by
            gcongr
            omega
        _ = ((2 ^ 52 : ℕ) : ℚ) * 2 ^ ((Max.max x.exponent 1 : ℕ) - 1075 + 1 : ℤ) := by
            rw [zpow_add_one₀ two_ne_zero]
            push_cast
            ring
        _ ≤ ((2 ^ 52 + y.fraction : ℕ) : ℚ) * 2 ^ ((Max.max y.exponent 1 : ℕ) - 1075 : ℤ) := by
            gcongr
            · omega
            · norm_num
            · omega

/-! ### Signs -/

theorem ofNat_zero : (ofNat 0).isNan = false ∧ (ofNat 0).order = 0 := by decide +kernel

/-- A double that is not positive, of an integer that is not. -/
theorem ofInt_le_zero {n : ℤ} (h : n ≤ 0) : (ofInt n).le (ofNat 0) = true := by
  obtain ⟨hnumber, hzero⟩ := ofNat_zero
  rcases eq_or_lt_of_le h with rfl | hneg
  · have hofInt : ofInt 0 = ofNat 0 := by simp [ofInt, ofNat]
    rw [hofInt, le, hnumber, hzero]
    rfl
  have hcast : ((n : ℚ)).num = n := Rat.num_intCast n
  have hden : ((n : ℚ)).den = 1 := Rat.den_intCast n
  have hsign : (n : ℚ) < 0 := by exact_mod_cast hneg
  have hof : ofInt n = ofSign true (encode n.natAbs 1) := by
    simp only [ofInt, ofRat, roundSigned, hcast, hden, hsign.ne, hsign, decide_true, if_false]
  have hlow := encode_le n.natAbs 1
  have hnan : (ofSign true (encode n.natAbs 1)).isNan = false := by
    rw [isNan, exponent_ofSign (by omega), fraction_ofSign (by omega), Bool.and_eq_false_iff]
    simp only [decide_eq_false_iff_not, ne_eq, not_not]
    omega
  rw [le, hof, hnan, hnumber, hzero, order, toRat, negative_ofSign (by omega)]
  simp only [Bool.not_false, Bool.and_self, Bool.true_and, if_true, decide_eq_true_eq]
  split
  · norm_num
  · exact neg_nonpos.mpr (magnitude_nonneg _)

/-! ### Shares -/

/-- A double between zero and one. -/
def InUnit (x : Binary64) : Prop := (ofNat 0).le x ∧ x.le (ofNat 1)

theorem encode_one : encode 1 1 = 1023 * 2 ^ 52 := rfl

/-- The greatest count of 64 bits is finite. -/
theorem encode_large : encode (2 ^ 64) 1 < 2047 * 2 ^ 52 := by decide

theorem ofNat_eq (n : ℕ) : ofNat n = ofSign false (encode n 1) := by
  have hcast : ((n : ℚ)).num = n := Rat.num_natCast n
  have hden : ((n : ℚ)).den = 1 := Rat.den_natCast n
  have hsign : ¬((n : ℚ) < 0) := not_lt.mpr (Nat.cast_nonneg n)
  simp only [ofNat, ofRat, roundSigned, hcast, hden, Int.natAbs_natCast, hsign, decide_false, ite_self]

section Positive

variable {low : ℕ} (h : low < 2047 * 2 ^ 52)

include h

theorem exponent_ofSign_lt (sign : Bool) : (ofSign sign low).exponent < 2047 := by
  rw [exponent_ofSign (by omega)]
  omega

theorem isNan_ofSign (sign : Bool) : (ofSign sign low).isNan = false := by
  have := exponent_ofSign_lt h sign
  rw [isNan, decide_eq_false (by omega), Bool.false_and]

theorem isInfinite_ofSign (sign : Bool) : (ofSign sign low).isInfinite = false := by
  have := exponent_ofSign_lt h sign
  rw [isInfinite, decide_eq_false (by omega), Bool.false_and]

theorem toRat_ofSign : (ofSign false low).toRat = (ofSign false low).magnitude := by
  rw [toRat, negative_ofSign (by omega), if_neg (by decide)]

theorem order_ofSign : (ofSign false low).order = (ofSign false low).magnitude := by
  rw [order, isInfinite_ofSign h, if_neg (by decide), toRat_ofSign h]

/-- A smaller double has a smaller magnitude. -/
theorem magnitude_ofSign_le {low' : ℕ} (hle : low' ≤ low) :
    (ofSign false low').magnitude ≤ (ofSign false low).magnitude := by
  apply magnitude_mono
  rw [exponent_ofSign (by omega), exponent_ofSign (by omega), fraction_ofSign (by omega), fraction_ofSign (by omega)]
  omega

end Positive

theorem magnitude_one : (ofSign false (encode 1 1)).magnitude = 1 := rfl

/-- A double whose bits are at most those of one is between zero and one. -/
theorem inUnit_ofSign {low : ℕ} (h : low ≤ encode 1 1) : InUnit (ofSign false low) := by
  have hone := encode_one
  have hlow : low < 2047 * 2 ^ 52 := by omega
  have hunit : encode 1 1 < 2047 * 2 ^ 52 := by omega
  have hzero := ofNat_zero
  constructor
  · rw [le, hzero.1, hzero.2, isNan_ofSign hlow, order_ofSign hlow]
    exact decide_eq_true (magnitude_nonneg _)
  · rw [le, ofNat_eq, isNan_ofSign hlow, isNan_ofSign hunit, order_ofSign hlow, order_ofSign hunit]
    exact decide_eq_true (magnitude_ofSign_le hunit h)

/-- The nearest double to a number of the unit interval is in it. -/
theorem inUnit_roundSigned {q : ℚ} (hnonneg : 0 ≤ q) (hle : q ≤ 1) : InUnit (roundSigned false q) := by
  have hsign : (if q = 0 then false else decide (q < 0)) = false := by
    rw [decide_eq_false (not_lt.mpr hnonneg), ite_self]
  have hnum : q.num.natAbs * 1 ≤ 1 * q.den := by
    have hfraction := Rat.num_le_denom_iff.mpr hle
    have := Rat.num_nonneg.mpr hnonneg
    omega
  rw [roundSigned, hsign]
  exact inUnit_ofSign (encode_mono q.den_pos Nat.one_pos hnum)

/-- **A share of a whole** is between zero and one, and a number. -/
theorem inUnit_div_ofNat {part whole : ℕ} (hpart : part ≤ whole) (hwhole : 0 < whole) (hmax : whole < 2 ^ 64) :
    InUnit ((ofNat part).div (ofNat whole)) := by
  have hmono : encode part 1 ≤ encode whole 1 := encode_mono Nat.one_pos Nat.one_pos (by omega)
  have hbound : encode whole 1 ≤ encode (2 ^ 64) 1 := encode_mono Nat.one_pos Nat.one_pos (by omega)
  have hlarge := encode_large
  have hone : encode 1 1 ≤ encode whole 1 := encode_mono Nat.one_pos Nat.one_pos (by omega)
  have hpositive := encode_one
  have hx : encode part 1 < 2047 * 2 ^ 52 := by omega
  have hy : encode whole 1 < 2047 * 2 ^ 52 := by omega
  have hzero : (ofSign false (encode whole 1)).isZero = false := by
    rw [isZero, toNat_ofSign (by omega)]
    exact decide_eq_false (by simp only [Bool.false_eq_true, if_false]; omega)
  have hquotient : 0 ≤ (ofSign false (encode part 1)).toRat / (ofSign false (encode whole 1)).toRat ∧
      (ofSign false (encode part 1)).toRat / (ofSign false (encode whole 1)).toRat ≤ 1 := by
    rw [toRat_ofSign hx, toRat_ofSign hy]
    have hwholepos : 0 < (ofSign false (encode whole 1)).magnitude := by
      have hunit := magnitude_ofSign_le hy hone
      rw [magnitude_one] at hunit
      exact lt_of_lt_of_le one_pos hunit
    exact ⟨div_nonneg (magnitude_nonneg _) hwholepos.le, (div_le_one hwholepos).mpr (magnitude_ofSign_le hy hmono)⟩
  rw [ofNat_eq, ofNat_eq, div, isNan_ofSign hx, isNan_ofSign hy, isInfinite_ofSign hx, isInfinite_ofSign hy, hzero,
    negative_ofSign (by omega), negative_ofSign (by omega)]
  exact inUnit_roundSigned hquotient.1 hquotient.2

/-! ### Quotients of counts -/

/-- The bits of a double between zero and `2 ^ 64`, as a quotient of counts is. -/
def Count (low : ℕ) : Prop := low ≤ encode (2 ^ 64) 1

theorem Count.lt {low : ℕ} (h : Count low) : low < 2047 * 2 ^ 52 :=
  Nat.lt_of_le_of_lt h encode_large

theorem count_encode {n : ℕ} (h : n ≤ 2 ^ 64) : Count (encode n 1) :=
  encode_mono Nat.one_pos Nat.one_pos (by omega)

theorem one_le_encode {n : ℕ} (h : 0 < n) : encode 1 1 ≤ encode n 1 :=
  encode_mono Nat.one_pos Nat.one_pos (by omega)

theorem totalKey_ofSign {low : ℕ} (h : low < 2 ^ 63) : (ofSign false low).totalKey = low := by
  rw [totalKey, negative_ofSign h, toNat_ofSign h, if_neg (by decide), if_neg (by decide), Nat.add_zero,
    Nat.mod_eq_of_lt h]

/-- **A quotient by one or more** stays a count. -/
theorem div_ofSign {x y : ℕ} (hx : Count x) (hy : Count y) (hone : encode 1 1 ≤ y) :
    ∃ z, Count z ∧ (ofSign false x).div (ofSign false y) = ofSign false z := by
  have hxlt := hx.lt
  have hylt := hy.lt
  have hpositive := encode_one
  have hzero : (ofSign false y).isZero = false := by
    rw [isZero, toNat_ofSign (by omega)]
    exact decide_eq_false (by simp only [Bool.false_eq_true, if_false]; omega)
  have hlarge : (ofSign false (encode (2 ^ 64) 1)).magnitude = 2 ^ 64 := rfl
  have hxle := magnitude_ofSign_le encode_large hx
  have hyge := magnitude_ofSign_le hylt hone
  rw [hlarge] at hxle
  rw [magnitude_one] at hyge
  have hxnonneg := magnitude_nonneg (ofSign false x)
  have hq : 0 ≤ (ofSign false x).magnitude / (ofSign false y).magnitude :=
    div_nonneg hxnonneg (magnitude_nonneg _)
  have hqle : (ofSign false x).magnitude / (ofSign false y).magnitude ≤ 2 ^ 64 :=
    (div_le_self hxnonneg hyge).trans hxle
  rw [div, isNan_ofSign hxlt, isNan_ofSign hylt, isInfinite_ofSign hxlt, isInfinite_ofSign hylt, hzero,
    negative_ofSign (by omega), negative_ofSign (by omega), toRat_ofSign hxlt, toRat_ofSign hylt]
  generalize (ofSign false x).magnitude / (ofSign false y).magnitude = q at hq hqle ⊢
  have hsign : (if q = 0 then false else decide (q < 0)) = false := by
    rw [decide_eq_false (not_lt.mpr hq), ite_self]
  refine ⟨encode q.num.natAbs q.den, ?_, ?_⟩
  · apply encode_mono q.den_pos Nat.one_pos
    have hnum : (q.num.natAbs : ℚ) ≤ 2 ^ 64 * q.den := by
      have hcast : (q.num.natAbs : ℚ) = q.num := by
        rw [← Int.cast_natCast, Int.natAbs_of_nonneg (Rat.num_nonneg.mpr hq)]
      have hden : (0 : ℚ) < q.den := by exact_mod_cast q.den_pos
      rw [hcast]
      calc (q.num : ℚ) = q * q.den := (Rat.mul_den_eq_num q).symm
        _ ≤ 2 ^ 64 * q.den := mul_le_mul_of_nonneg_right hqle hden.le
    have hnat : q.num.natAbs ≤ 2 ^ 64 * q.den := by exact_mod_cast hnum
    omega
  · exact congrArg (ofSign · _) hsign

theorem isFinite_ofSign {low : ℕ} (h : low < 2047 * 2 ^ 52) : (ofSign false low).isFinite = true := by
  have hexponent := exponent_ofSign_lt h false
  exact decide_eq_true (by omega)

/-- A quarter of a double, as a product or as a quotient. -/
theorem mul_quarter (x : Binary64) : x.mul (ofRat 0.25) = x.div (ofNat 4) := by
  obtain ⟨hnan, hinfinite, hzero, hnegative, hvalue⟩ : (ofRat 0.25).isNan = false ∧ (ofRat 0.25).isInfinite = false ∧
      (ofRat 0.25).isZero = false ∧ (ofRat 0.25).negative = false ∧ (ofRat 0.25).toRat = 1 / 4 := by decide +kernel
  obtain ⟨hnan', hinfinite', hzero', hnegative', hvalue'⟩ : (ofNat 4).isNan = false ∧ (ofNat 4).isInfinite = false ∧
      (ofNat 4).isZero = false ∧ (ofNat 4).negative = false ∧ (ofNat 4).toRat = 4 := ⟨rfl, rfl, rfl, rfl, rfl⟩
  have hproduct : x.toRat * (1 / 4) = x.toRat / 4 := by ring
  have hnotZero : x.isInfinite = true → x.isZero = false := by
    intro hx
    have hexponent : x.exponent = 2047 := by
      simp only [isInfinite, Bool.and_eq_true, decide_eq_true_eq] at hx
      exact hx.1
    unfold exponent at hexponent
    rw [isZero]
    exact decide_eq_false (by omega)
  rw [mul, div, hnan, hinfinite, hzero, hnegative, hvalue, hnan', hinfinite', hzero', hnegative', hvalue', hproduct]
  cases hx : x.isInfinite with
  | false => simp
  | true => simp [hnotZero hx]

/-! ### Comparing integers -/

theorem ofInt_of_nonneg {n : ℤ} (h : 0 ≤ n) : ofInt n = ofNat n.toNat := by
  rw [ofInt, ofNat, ← Int.cast_natCast, Int.toNat_of_nonneg h]

theorem isNan_ofNat (n : ℕ) : (ofNat n).isNan = false := by
  have hle := encode_le n 1
  rw [ofNat_eq, isNan, exponent_ofSign (by omega), fraction_ofSign (by omega), Bool.and_eq_false_iff]
  simp only [decide_eq_false_iff_not, ne_eq, not_not]
  omega

/-- The key of an integer's double is its magnitude, also beyond the range. -/
theorem order_ofNat (n : ℕ) : (ofNat n).order = (ofNat n).magnitude := by
  have hle := encode_le n 1
  rw [ofNat_eq]
  rcases eq_or_lt_of_le hle with hinfinite | hfinite
  · rw [hinfinite]
    decide +kernel
  · exact order_ofSign hfinite

theorem order_ofNat_mono {m n : ℕ} (h : m ≤ n) : (ofNat m).order ≤ (ofNat n).order := by
  have hencode : encode m 1 ≤ encode n 1 := encode_mono Nat.one_pos Nat.one_pos (by omega)
  have hm := encode_le m 1
  have hn := encode_le n 1
  rw [order_ofNat, order_ofNat]
  apply magnitude_mono
  rw [ofNat_eq, ofNat_eq, exponent_ofSign (by omega), exponent_ofSign (by omega), fraction_ofSign (by omega),
    fraction_ofSign (by omega)]
  omega

/-- An integer is beyond a bound that differs from its successor just when its
double is. -/
theorem ofNat_lt_ofInt_iff {bound : ℕ} (hbound : (ofNat bound).order < (ofNat (bound + 1)).order) (n : ℤ) :
    (ofNat bound).lt (ofInt n) = true ↔ (bound : ℤ) < n := by
  have hzero := ofNat_zero
  by_cases hn : 0 ≤ n
  · rw [ofInt_of_nonneg hn, lt, isNan_ofNat, isNan_ofNat]
    simp only [Bool.not_false, Bool.and_self, Bool.true_and, decide_eq_true_eq]
    constructor
    · intro hlt
      by_contra hle
      exact absurd (order_ofNat_mono (show n.toNat ≤ bound by omega)) (not_le.mpr hlt)
    · intro hlt
      exact lt_of_lt_of_le hbound (order_ofNat_mono (show bound + 1 ≤ n.toNat by omega))
  · have hle := ofInt_le_zero (show n ≤ 0 by omega)
    simp only [le, hzero.1, hzero.2, Bool.and_eq_true, decide_eq_true_eq] at hle
    have hnonneg := order_ofNat_mono (Nat.zero_le bound)
    rw [hzero.2] at hnonneg
    have hnot : ¬(ofNat bound).order < (ofInt n).order := not_lt.mpr (hle.2.trans hnonneg)
    simp only [lt, hnot, decide_false, Bool.and_false, Bool.false_eq_true, false_iff]
    omega

theorem ofInt_le_zero_iff (n : ℤ) : (ofInt n).le (ofNat 0) = true ↔ n ≤ 0 := by
  refine ⟨fun hle => ?_, ofInt_le_zero⟩
  by_contra hpos
  have hone : (ofNat 0).order < (ofNat (0 + 1)).order := by
    rw [ofNat_zero.2]
    decide
  have hlt : (ofNat 0).lt (ofInt n) = true := (ofNat_lt_ofInt_iff hone n).mpr (by push_cast; omega)
  simp only [le, lt, Bool.and_eq_true, decide_eq_true_eq] at hle hlt
  exact absurd hle.2 (not_le.mpr hlt.2)

theorem isFinite_ofNat {n : ℕ} (h : n ≤ 2 ^ 64) : (ofNat n).isFinite = true := by
  rw [ofNat_eq]
  exact isFinite_ofSign (count_encode h).lt

theorem InUnit.not_nan {x : Binary64} (h : InUnit x) : x.isNan = false := by
  have hle := h.1
  simp only [le, Bool.and_eq_true, Bool.not_eq_true'] at hle
  exact hle.1.2

end Binary64
