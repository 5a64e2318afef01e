import Mathlib.Data.Int.Log
import Mathlib.Tactic

/-!
Double-precision arithmetic on the rational numbers that doubles denote.

* `Double.roundEven`: the nearest integer, the even one of two;
* `Double.round`: the double of 53 bits that a number is rounded to;
* `Double.ofInt`, `Double.add`, `Double.mul`, `Double.div`, `Double.truncate`: the conversions and
  the operations.

The exponent has no bounds here, so that nothing overflows or is subnormal, and there are no
infinities: a quotient by zero is zero.
-/

namespace LibAjaNtv2

namespace Double

/-- The nearest integer, the even one of two. -/
def roundEven (x : ℚ) : ℤ :=
  if x - ⌊x⌋ < 1 / 2 ∨ x - ⌊x⌋ = 1 / 2 ∧ ⌊x⌋ % 2 = 0 then ⌊x⌋ else ⌊x⌋ + 1

/-- The unit in the last of 53 places. -/
def ulp (x : ℚ) : ℚ := 2 ^ (Int.log 2 |x| - 52)

/-- A number, rounded to a double. -/
def round (x : ℚ) : ℚ := roundEven (x / ulp x) * ulp x

/-- An integer, converted to a double. -/
def ofInt (n : ℤ) : ℚ := round n

/-- The sum of two doubles. -/
def add (x y : ℚ) : ℚ := round (x + y)

/-- The product of two doubles. -/
def mul (x y : ℚ) : ℚ := round (x * y)

/-- The quotient of two doubles. -/
def div (x y : ℚ) : ℚ := round (x / y)

-- the double nearest to a tenth
example : div 1 10 = 3602879701896397 / 2 ^ 55 := by decide +kernel

/-- A double, converted to an integer: what is behind the point is dropped. -/
def truncate (x : ℚ) : ℤ := if 0 ≤ x then ⌊x⌋ else ⌈x⌉

end Double

end LibAjaNtv2
