import Mathlib.Algebra.Order.Ring.Abs
import Mathlib.Algebra.Order.Round
import Mathlib.Data.Int.Log
import Mathlib.Data.Rat.Floor

/-!
# CanDriver.Double

`double` as exact rationals with the special values of IEEE 754.

Comparisons with `nan` are false, arithmetic on it gives `nan`, and infinities
behave as the standard says.  Finite results are exact: rounding to 53 bits is
not modelled, and there is one zero.
-/

namespace CanDriver

/-- A `double`. -/
inductive Double where
  | finite (q : ℚ)
  | inf (negative : Bool)
  | nan
deriving DecidableEq, Repr

namespace Double

/-- `std::isfinite`. -/
def isFinite : Double → Bool
  | finite _ => true
  | _ => false

instance : Inhabited Double := ⟨finite 0⟩

/-- An integer as a `double`. -/
def ofInt (n : Int) : Double := finite n

/-- `x < y`, false when either side is `nan`. -/
def lt : Double → Double → Bool
  | finite a, finite b => decide (a < b)
  | inf true, finite _ => true
  | finite _, inf false => true
  | inf true, inf false => true
  | _, _ => false

/-- `x <= y`, false when either side is `nan`. -/
def le : Double → Double → Bool
  | finite a, finite b => decide (a ≤ b)
  | inf true, inf _ => true
  | inf true, finite _ => true
  | finite _, inf false => true
  | inf false, inf false => true
  | _, _ => false

/-- Unary minus. -/
def neg : Double → Double
  | finite a => finite (-a)
  | inf s => inf (!s)
  | nan => nan

/-- `x + y`. -/
def add : Double → Double → Double
  | finite a, finite b => finite (a + b)
  | inf s, finite _ => inf s
  | finite _, inf s => inf s
  | inf s, inf t => if s = t then inf s else nan
  | _, _ => nan

/-- `x - y`. -/
def sub (x y : Double) : Double := add x (neg y)

/-- Whether a nonzero operand is negative. -/
def isNegative : Double → Bool
  | finite a => decide (a < 0)
  | inf s => s
  | nan => false

/-- Whether an operand is zero. -/
def isZero : Double → Bool
  | finite a => decide (a = 0)
  | _ => false

/-- `x * y`. -/
def mul : Double → Double → Double
  | finite a, finite b => finite (a * b)
  | nan, _ => nan
  | _, nan => nan
  | x, y => if x.isZero || y.isZero then nan else inf (x.isNegative != y.isNegative)

/-- `x / y`; a zero divisor counts as positive. -/
def div : Double → Double → Double
  | finite a, finite b =>
      if b = 0 then (if a = 0 then nan else inf (decide (a < 0))) else finite (a / b)
  | inf s, finite b => inf (s != decide (b < 0))
  | finite _, inf _ => finite 0
  | _, _ => nan

/-- `std::fabs`. -/
def abs : Double → Double
  | finite a => finite |a|
  | inf _ => inf false
  | nan => nan

/-- `std::max(x, y)`: the first argument unless it is smaller. -/
def max (x y : Double) : Double := if lt x y then y else x

/-- `std::min(x, y)`: the first argument unless the second is smaller. -/
def min (x y : Double) : Double := if lt y x then y else x

/-- Rounding to the nearest integer, halves away from zero. -/
def roundAway (q : ℚ) : Int := if 0 ≤ q then ⌊q + 1 / 2⌋ else ⌈q - 1 / 2⌉

end Double

/-! ## single precision -/

namespace Single

/-- Rounding to the nearest integer, halves to even. -/
def roundEven (q : ℚ) : Int :=
  let n := ⌊q⌋
  if q - n < 1 / 2 then n
  else if 1 / 2 < q - n then n + 1
  else if n % 2 = 0 then n
  else n + 1

/-- The binary exponent of the last place of `q`. -/
def ulpExponent (q : ℚ) : Int := max (Int.log 2 |q|) (-126) - 23

/-- The significand of `q` in units of the last place. -/
def significand (q : ℚ) : Int := roundEven (|q| / 2 ^ ulpExponent q)

/-- `static_cast<float>`: the nearest single-precision value. -/
def round (q : ℚ) : ℚ :=
  if q = 0 then 0
  else (if q < 0 then -1 else 1) * significand q * 2 ^ ulpExponent q

/-- The bit pattern of the nearest single-precision value. -/
def bits (q : ℚ) : UInt32 :=
  if q = 0 then 0
  else
    let magnitude : Int :=
      if significand q < 2 ^ 23 then significand q
      else (ulpExponent q + 150) * 2 ^ 23 + (significand q - 2 ^ 23)
    UInt32.ofNat ((if q < 0 then 2 ^ 31 else 0) + magnitude.toNat)

end Single

end CanDriver
