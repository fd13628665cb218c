import Intake.Double

/-! # Rounding to the nearest double

A positive ratio is scaled so that its integer part has 53 bits, or fewer below the smallest normal
double, and rounded to the nearest integer with ties to even. Scale and integer together are the
rank of the result, also when the rounding carries into the next power of two.
-/

namespace Intake.Double

/-- The nearest integer to `n / d`, ties to even. -/
def roundedRatio (n d : Nat) : Nat :=
  let floor := n / d
  let twice := 2 * (n % d)
  if twice < d then floor
  else if d < twice then floor + 1
  else if floor % 2 = 0 then floor else floor + 1

/-- The exponent of the greatest power of two that does not exceed `n / d`. -/
def log2Ratio (n d : Nat) : Int :=
  let guess : Int := (n.log2 : Int) - d.log2
  let reached := match guess with
    | .ofNat e => decide (d * 2 ^ e ≤ n)
    | .negSucc e => decide (d ≤ n * 2 ^ (e + 1))
  if reached then guess else guess - 1

/-- The rank of the double nearest to `n / d`; at least `infinityRank` on overflow. -/
def rankOfRatio (n d : Nat) : Nat :=
  if n = 0 ∨ d = 0 then 0
  else
    let scale := max (log2Ratio n d - 52) (-1074)
    let count := match scale with
      | .ofNat e => roundedRatio n (d * 2 ^ e)
      | .negSucc e => roundedRatio (n * 2 ^ (e + 1)) d
    (scale + 1074).toNat * 2 ^ 52 + count

/-- Overflow gives infinity. -/
def ofRatio (negative : Bool) (n d : Nat) : Double :=
  ofRank negative (min (rankOfRatio n d) infinityRank)

/-- The double nearest to an integer, ties to even. -/
def ofInt (n : Int) : Double := ofRatio (decide (n < 0)) n.natAbs 1

/-- Integers of 64 bits, clamped at the ends of their range; what is not a number gives zero. -/
def toInt64 (x : Double) : Int :=
  if x.isNaN then 0
  else if x.isFinite then max (-2 ^ 63) (min x.truncated (2 ^ 63 - 1))
  else if x.negative then -2 ^ 63 else 2 ^ 63 - 1

end Intake.Double
