/-
# Exchanges with a server

What the HTTP library says of a request that got no response, or of a body
that broke off; and lengths in memory, which saturate as machine integers do.
-/
import Sentinel.Lib.Http
import Mathlib.Algebra.Group.Nat.Defs

namespace Sentinel

/-- A transport error, by what it answers: a connection that times out is both
a failed connection and a timeout. -/
structure TransportError where
  isTimeout : Bool
  isConnect : Bool
  isDecode : Bool
  deriving DecidableEq, Repr

abbrev HttpBody := Http.Body TransportError

abbrev HttpResponse := Http.Response TransportError

def usizeMaximum : ℕ := 2 ^ 64 - 1

/-- `usize::saturating_add`. -/
def saturatingAddUsize (a b : ℕ) : ℕ := min (a + b) usizeMaximum

/-- `u64::try_from(length).unwrap_or(u64::MAX)`. -/
def lengthU64 (length : ℕ) : ℕ := min length usizeMaximum

theorem lt_lengthU64_iff {limit length : ℕ} (h : limit < usizeMaximum) : limit < lengthU64 length ↔ limit < length := by
  unfold lengthU64
  omega

theorem lt_saturatingAddUsize_iff {limit a b : ℕ} (h : limit < usizeMaximum) :
    limit < lengthU64 (saturatingAddUsize a b) ↔ limit < a + b := by
  rw [lt_lengthU64_iff h]
  unfold saturatingAddUsize
  omega

end Sentinel
