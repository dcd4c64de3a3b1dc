/-
# Robust bounds

The median and the scaled median deviation of a population, with the
arithmetic of doubles as the code computes them and with exact rationals. The
exact bounds do not depend on the order of the population, move with it, and
their median stays among the values that were not replaced.

Key theorems: `robustBounds_eq_boundsBy`, `exactRobustBounds_resist`.
-/
import Sentinel.Core.Evaluate
import Sentinel.Lib.Median

namespace Sentinel

open Median

/-- The rounded arithmetic of doubles. -/
def binary64Arithmetic : Arithmetic Binary64 where
  isFinite := Binary64.isFinite
  midpoint := Binary64.midpoint
  sub := Binary64.sub
  abs := Binary64.abs
  mul := Binary64.mul
  max := Binary64.max
  scale := .ofRat 1.4826
  floor := .ofRat 1e-9

/-- **The bounds of doubles** are the general bounds in their arithmetic. -/
theorem robustBounds_eq_boundsBy (values : List Binary64) :
    robustBounds values = boundsBy Binary64.totalKey binary64Arithmetic values := rfl

/-- The bounds of exact numbers. -/
def exactRobustBounds (values : List ℚ) : Option (ℚ × ℚ) := boundsBy id (exactArithmetic 1.4826 1e-9) values

example : exactRobustBounds [1, 2, 3] = some (2, 1.4826) := by decide +kernel

/-- **The bounds resist a minority of anomalies.** With fewer than half of the
values replaced the median lies between two of the others; the order of the
values does not matter; and a shift moves the median alone. -/
theorem exactRobustBounds_resist :
    (∀ (values altered : List ℚ) (replaced : Finset ℕ), altered.length = values.length →
        (∀ i, i ∉ replaced → altered[i]? = values[i]?) → 2 * replaced.card < values.length →
        ∃ center deviation, exactRobustBounds altered = some (center, deviation) ∧
          (∃ i x, i ∉ replaced ∧ values[i]? = some x ∧ x ≤ center) ∧
          ∃ j y, j ∉ replaced ∧ values[j]? = some y ∧ center ≤ y) ∧
      (∀ values values' : List ℚ, values.Perm values' → exactRobustBounds values = exactRobustBounds values') ∧
      ∀ (values : List ℚ) (c : ℚ), exactRobustBounds (values.map (· + c)) =
        (exactRobustBounds values).map fun (center, deviation) => (center + c, deviation) := by
  refine ⟨?_, ?_, ?_⟩
  · intro values altered replaced hlength hkept hfew
    have hne : altered ≠ [] := by
      rintro rfl
      rw [← hlength] at hfew
      exact absurd hfew (Nat.not_lt_zero _)
    obtain ⟨deviation, hbounds⟩ : ∃ deviation,
        exactRobustBounds altered = some (medianBy id mean altered, deviation) := boundsBy_eq hne
    obtain ⟨⟨i, x, hi, hx, hle⟩, j, y, hj, hy, hge⟩ := medianBy_between (hlength ▸ hfew)
    exact ⟨_, deviation, hbounds, ⟨i, x, hi, hkept i hi ▸ hx, hle⟩, j, y, hj, hkept j hj ▸ hy, hge⟩
  · exact fun values values' h => boundsBy_perm Function.injective_id _ h
  · exact fun values c => boundsBy_shift _ _ c values

end Sentinel
