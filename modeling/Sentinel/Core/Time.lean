/-
# Instants

The `Timestamp` of the time library: an instant to the nanosecond, within the
library's range of years -9999 to 9999. Its two integer readings truncate
toward zero. The stored form of an instant is its UTC text with nine
fractional digits; the model keeps the instant itself, and `canonical` is the
check the canonical text must pass (no year before zero).
-/
import Mathlib.Order.Lattice
import Mathlib.Order.MinMax
import Mathlib.Data.Int.Order.Basic

namespace Sentinel

/-- Nanoseconds in a second. -/
abbrev nanosecondsPerSecond : ℤ := 1000000000

/-- An instant, in nanoseconds from the Unix epoch. -/
structure Timestamp where
  nanoseconds : ℤ
  lower : -377705023201 * nanosecondsPerSecond ≤ nanoseconds
  upper : nanoseconds < 253402207201 * nanosecondsPerSecond
  deriving DecidableEq, Repr

namespace Timestamp

theorem nanoseconds_injective : Function.Injective nanoseconds := by
  rintro ⟨a, _, _⟩ ⟨b, _, _⟩ h
  simpa using h

instance : LinearOrder Timestamp := LinearOrder.lift' nanoseconds nanoseconds_injective

instance : Std.LawfulOrderMax Timestamp where
  max_le_iff _ _ _ := max_le_iff
  max_eq_or := max_choice

theorem le_iff {a b : Timestamp} : a ≤ b ↔ a.nanoseconds ≤ b.nanoseconds := Iff.rfl

/-- The whole seconds of an instant (`as_second`), truncated toward zero. -/
def asSecond (t : Timestamp) : ℤ := t.nanoseconds.tdiv nanosecondsPerSecond

/-- The seconds of an instant are those of the library's range. -/
theorem asSecond_bounds (t : Timestamp) : -377705023201 ≤ t.asSecond ∧ t.asSecond ≤ 253402207200 := by
  have hlower := t.lower
  have hupper := t.upper
  have hsecond := Int.mul_tdiv_add_tmod t.nanoseconds nanosecondsPerSecond
  have hbelow := Int.lt_tmod_of_pos t.nanoseconds (show (0 : ℤ) < nanosecondsPerSecond by decide)
  have habove := Int.tmod_lt_of_pos t.nanoseconds (show (0 : ℤ) < nanosecondsPerSecond by decide)
  have hsign : 0 ≤ t.nanoseconds → 0 ≤ t.nanoseconds.tmod nanosecondsPerSecond :=
    fun h => Int.tmod_nonneg _ h
  have hsign' : t.nanoseconds ≤ 0 → t.nanoseconds.tmod nanosecondsPerSecond ≤ 0 := by
    intro h
    have := Int.tmod_nonneg nanosecondsPerSecond (show 0 ≤ -t.nanoseconds by omega)
    rw [Int.neg_tmod] at this
    omega
  simp only [asSecond, nanosecondsPerSecond] at *
  omega

/-- A later instant has no earlier second. -/
theorem asSecond_mono {a b : Timestamp} (h : a ≤ b) : a.asSecond ≤ b.asSecond :=
  Int.tdiv_le_tdiv (by decide) h

/-- What `asSecond` leaves (`subsec_nanosecond`), of the instant's sign. -/
def subsecNanosecond (t : Timestamp) : ℤ := t.nanoseconds.tmod nanosecondsPerSecond

/-- An instant from whole seconds and a remainder, if it is in range. -/
def new (second nanosecond : ℤ) : Option Timestamp :=
  let total := second * nanosecondsPerSecond + nanosecond
  if h : -377705023201 * nanosecondsPerSecond ≤ total ∧ total < 253402207201 * nanosecondsPerSecond then
    some ⟨total, h.1, h.2⟩
  else none

/-- 0000-01-01T00:00:00Z. -/
def yearZero : ℤ := -62167219200 * nanosecondsPerSecond

end Timestamp

/-! ### Signed 64-bit arithmetic that saturates -/

def i64Minimum : ℤ := -9223372036854775808

def i64Maximum : ℤ := 9223372036854775807

/-- The nearest 64-bit integer. -/
def saturate (n : ℤ) : ℤ := max i64Minimum (min n i64Maximum)

/-- Saturation keeps the order with what is in range. -/
theorem lt_saturate_iff {bound n : ℤ} (hlower : i64Minimum ≤ bound) (hupper : bound < i64Maximum) :
    bound < saturate n ↔ bound < n := by
  unfold saturate
  omega

def saturatingAdd (a b : ℤ) : ℤ := saturate (a + b)

def saturatingSub (a b : ℤ) : ℤ := saturate (a - b)

end Sentinel
