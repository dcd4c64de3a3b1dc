/-
# IEEE 754 binary64

A double is its 64 bits: a sign, 11 bits of exponent, 52 of fraction. A
finite one stands for a rational number (`toRat`), every operation is the
exact rational operation rounded to the nearest double, ties to even
(`ofRat`), and the special values follow the standard. So arithmetic here is
computable and its results are the doubles a conforming machine computes.
-/
import Mathlib.Data.Rat.Defs
import Mathlib.Algebra.Order.Ring.Rat

/-- A double, as its bits. -/
structure Binary64 where
  bits : UInt64
  deriving DecidableEq, Repr, Inhabited

namespace Binary64

/-- The sign bit. -/
def negative (x : Binary64) : Bool := 2 ^ 63 ≤ x.bits.toNat

/-- The 11 exponent bits. -/
def exponent (x : Binary64) : ℕ := x.bits.toNat / 2 ^ 52 % 2 ^ 11

/-- The 52 fraction bits. -/
def fraction (x : Binary64) : ℕ := x.bits.toNat % 2 ^ 52

def isNan (x : Binary64) : Bool := x.exponent = 2047 && x.fraction ≠ 0

def isInfinite (x : Binary64) : Bool := x.exponent = 2047 && x.fraction = 0

def isFinite (x : Binary64) : Bool := x.exponent ≠ 2047

/-- The double with a sign and the 63 bits below it. -/
def ofSign (negative : Bool) (low : ℕ) : Binary64 :=
  ⟨UInt64.ofNat (low + if negative then 2 ^ 63 else 0)⟩

def nan : Binary64 := ⟨0x7ff8000000000000⟩

def infinity (negative : Bool) : Binary64 := ofSign negative 0x7ff0000000000000

/-- The magnitude of a finite double. Subnormal numbers have no leading one. -/
def magnitude (x : Binary64) : ℚ :=
  let significand := if x.exponent = 0 then x.fraction else 2 ^ 52 + x.fraction
  let shift := max x.exponent 1
  if 1075 ≤ shift then (significand * 2 ^ (shift - 1075) : ℕ) else mkRat significand (2 ^ (1075 - shift))

/-- The rational number a finite double stands for. -/
def toRat (x : Binary64) : ℚ := if x.negative then -x.magnitude else x.magnitude

/-! ### Rounding -/

/-- `n / d` to the nearest natural number, ties to even. -/
def roundHalfEven (n d : ℕ) : ℕ :=
  let floor := n / d
  let rest := n % d
  if 2 * rest < d then floor else if d < 2 * rest then floor + 1 else floor + floor % 2

/-- The largest `k` with `2 ^ k ≤ n / d`, for positive `n` and `d`. -/
def floorLog2 (n d : ℕ) : ℤ :=
  let k : ℤ := (Nat.log2 n : ℤ) - Nat.log2 d
  if n * 2 ^ (-k).toNat < d * 2 ^ k.toNat then k - 1 else k

/-- The 63 low bits of the double nearest to `n / d`. A significand that
rounds up to the next power of two carries into the exponent by itself. -/
def encode (n d : ℕ) : ℕ :=
  if n = 0 then 0
  else
    let e := max (floorLog2 n d - 52) (-1074)
    let significand := roundHalfEven (n * 2 ^ (-e).toNat) (d * 2 ^ e.toNat)
    min ((e + 1074).toNat * 2 ^ 52 + significand) 0x7ff0000000000000

/-- The double nearest to `q`, with `negative` the sign of a zero result. -/
def roundSigned (negative : Bool) (q : ℚ) : Binary64 :=
  ofSign (if q = 0 then negative else q < 0) (encode q.num.natAbs q.den)

/-- The double nearest to `q`. -/
def ofRat (q : ℚ) : Binary64 := roundSigned false q

/-- A conversion from an integer type (`n as f64`). -/
def ofInt (n : ℤ) : Binary64 := ofRat n

def ofNat (n : ℕ) : Binary64 := ofRat n

/-! ### Arithmetic -/

def neg (x : Binary64) : Binary64 := ofSign (!x.negative) (x.bits.toNat % 2 ^ 63)

def abs (x : Binary64) : Binary64 := ofSign false (x.bits.toNat % 2 ^ 63)

def isZero (x : Binary64) : Bool := x.bits.toNat % 2 ^ 63 = 0

def add (x y : Binary64) : Binary64 :=
  if x.isNan || y.isNan then nan
  else if x.isInfinite then (if y.isInfinite && x.negative != y.negative then nan else x)
  else if y.isInfinite then y
  else roundSigned (x.negative && y.negative) (x.toRat + y.toRat)

def sub (x y : Binary64) : Binary64 := add x (neg y)

def mul (x y : Binary64) : Binary64 :=
  let negative := x.negative != y.negative
  if x.isNan || y.isNan then nan
  else if x.isInfinite || y.isInfinite then
    (if x.isZero || y.isZero then nan else infinity negative)
  else roundSigned negative (x.toRat * y.toRat)

def div (x y : Binary64) : Binary64 :=
  let negative := x.negative != y.negative
  if x.isNan || y.isNan then nan
  else if x.isInfinite then (if y.isInfinite then nan else infinity negative)
  else if y.isInfinite then ofSign negative 0
  else if y.isZero then (if x.isZero then nan else infinity negative)
  else roundSigned negative (x.toRat / y.toRat)

/-- To the nearest integer, halves away from zero. -/
def round (x : Binary64) : Binary64 :=
  if x.isFinite then
    roundSigned x.negative (if x.negative then -(x.magnitude + 1 / 2).floor else (x.magnitude + 1 / 2).floor : ℤ)
  else x

/-- The cast to an unsigned 64-bit integer: truncating, saturating, 0 for a NaN. -/
def toU64 (x : Binary64) : UInt64 :=
  if x.isNan then 0
  else if x.isInfinite then (if x.negative then 0 else UInt64.ofNat (2 ^ 64 - 1))
  else if x.negative then 0
  else UInt64.ofNat (min x.magnitude.floor.toNat (2 ^ 64 - 1))

/-! ### Comparison -/

/-- A total key for comparisons of numbers: infinities lie beyond every
finite double. -/
def order (x : Binary64) : ℚ :=
  if x.isInfinite then (if x.negative then -(2 ^ 1024) else 2 ^ 1024) else x.toRat

def lt (x y : Binary64) : Bool := !x.isNan && !y.isNan && x.order < y.order

def le (x y : Binary64) : Bool := !x.isNan && !y.isNan && x.order ≤ y.order

/-- The larger number; a NaN gives way to the other operand. -/
def max (x y : Binary64) : Binary64 :=
  if x.isNan then y else if y.isNan then x else if x.lt y then y else x

/-- The key of the total order of all doubles, signed zeros and NaNs included. -/
def totalKey (x : Binary64) : ℤ :=
  if x.negative then -(x.bits.toNat % 2 ^ 63 : ℕ) - 1 else (x.bits.toNat % 2 ^ 63 : ℕ)

/-- The midpoint of two doubles, without overflow on the way. -/
def midpoint (a b : Binary64) : Binary64 :=
  let two := ofNat 2
  let low : Binary64 := ⟨0x0020000000000000⟩
  let high : Binary64 := ⟨0x7fdfffffffffffff⟩
  if a.abs.le high && b.abs.le high then div (add a b) two
  else if a.abs.lt low then add a (div b two)
  else if b.abs.lt low then add (div a two) b
  else add (div a two) (div b two)

/-- Decimal text without a fraction (`{:.0}`): the exact value to the nearest
integer, ties to even. -/
def toText (x : Binary64) : String :=
  let sign := if x.negative then "-" else ""
  if x.isNan then "NaN"
  else if x.isInfinite then sign ++ "inf"
  else sign ++ toString (roundHalfEven x.magnitude.num.natAbs x.magnitude.den)

example : div (ofNat 1) (ofNat 3) = ⟨0x3fd5555555555555⟩ := by decide +kernel

end Binary64
