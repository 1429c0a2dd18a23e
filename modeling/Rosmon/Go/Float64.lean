import Mathlib.Data.Int.Log
import Mathlib.Data.Rat.Floor

namespace Rosmon.Go

/-- The integer nearest to `q`, the even one of two equally near. -/
def roundHalfEven (q : ℚ) : ℤ :=
  let n := ⌊q⌋
  if q - n < 1 / 2 then n
  else if 1 / 2 < q - n then n + 1
  else if n % 2 = 0 then n else n + 1

/-- The `float64` nearest to `q`, with 53 bits of significand and exponents down
to that of the smallest subnormal; `none` when it would be infinite. -/
def toFloat64 (q : ℚ) : Option ℚ :=
  let e : ℤ := max (Int.log 2 |q| - 52) (-1074)
  let r := if q = 0 then 0 else roundHalfEven (q / (2 : ℚ) ^ e) * (2 : ℚ) ^ e
  if |r| < 2 ^ 1024 then some r else none

/-- `int64(f)` of a finite `f`. Outside the range Go leaves the result to the
machine; amd64 gives the least integer. -/
def int64OfFloat64 (f : ℚ) : ℤ :=
  let n := if 0 ≤ f then ⌊f⌋ else ⌈f⌉
  if -2 ^ 63 ≤ n ∧ n < 2 ^ 63 then n else -2 ^ 63

theorem int64OfFloat64_range (f : ℚ) :
    -2 ^ 63 ≤ int64OfFloat64 f ∧ int64OfFloat64 f < 2 ^ 63 := by
  dsimp only [int64OfFloat64]
  split <;> split <;> first | assumption | decide

end Rosmon.Go
