import Intake.Double.Rounding

/-! # Products and quotients

The product or the quotient of two finite doubles is the double nearest to what it would be without
rounding. `scaled?` multiplies by a power of ten with few of them, and so not always to the nearest.
-/

namespace Intake.Double

/-- The size of a finite double, as a numerator and a denominator. -/
def ratio (x : Double) : Nat × Nat :=
  match x.exponent with
  | .ofNat e => (x.significand * 2 ^ e, 1)
  | .negSucc e => (x.significand, 2 ^ (e + 1))

/-- The product of two finite doubles. -/
def times (x y : Double) : Double :=
  ofRatio (x.negative != y.negative) (x.ratio.1 * y.ratio.1) (x.ratio.2 * y.ratio.2)

/-- The quotient of two finite doubles, of which the second is not zero. -/
def dividedBy (x y : Double) : Double :=
  ofRatio (x.negative != y.negative) (x.ratio.1 * y.ratio.2) (x.ratio.2 * y.ratio.1)

/-- No greater power of ten is a finite double. -/
def greatestPower : Nat := 308

/-- The double nearest to a power of ten. -/
def powerOfTen (k : Nat) : Double := ofInt (10 ^ k)

/-- A finite double times a power of ten, by one product or one quotient with a power of ten that is
a double itself, after as many quotients by the greatest of these as it takes to come there. There
is none if it is too large. -/
def scaled? (x : Double) (power : Int) : Option Double :=
  if power.natAbs ≤ greatestPower then
    let ten := powerOfTen power.natAbs
    let y := if 0 ≤ power then x.times ten else x.dividedBy ten
    if y.isFinite then some y else none
  else if x.rank = 0 then some x
  else if 0 ≤ power then none
  else scaled? (x.dividedBy (powerOfTen greatestPower)) (power + greatestPower)
termination_by power.natAbs
decreasing_by
  unfold greatestPower at *
  omega

theorem isFinite_of_scaled? {x y : Double} {power : Int} (h : x.scaled? power = some y) :
    y.isFinite = true := by
  fun_induction scaled? x power with
  | case1 x power _ ten z hFinite => exact Option.some.inj h ▸ hFinite
  | case2 | case4 => cases h
  | case3 x power _ hZero =>
    cases h
    rw [isFinite, hZero]
    decide
  | case5 _ _ _ _ _ ih => exact ih h

end Intake.Double
