import Intake.Double
import Intake.Text.Digits

/-! # The shortest decimal that reads back

A finite double stands for an interval of reals, its ends included when the significand is even.
Decimal grids are tried from one digit to seventeen; on each grid only the two neighbours of the
double can lie in the interval. The first grid with a hit wins, and of two hits the nearer.
-/

namespace Intake.Double

/-- The number `digits * 10 ^ power`. -/
structure Decimal where
  digits : Nat
  power : Int
deriving DecidableEq, Repr

inductive Tie where
  | toEven
  | upward
deriving DecidableEq

/-- The interval of a positive finite double, as numerators over one denominator. -/
structure Span where
  low : Nat
  value : Nat
  high : Nat
  denominator : Nat
  closed : Bool

/-- The gap below a power of two is half of the gap above it. -/
def span (x : Double) : Span :=
  let s := x.significand
  let below := if s = 2 ^ 52 ∧ 2 ^ 53 ≤ x.rank then 1 else 2
  let even := s % 2 = 0
  match x.exponent - 2 with
  | .ofNat e => ⟨(4 * s - below) * 2 ^ e, 4 * s * 2 ^ e, (4 * s + 2) * 2 ^ e, 1, even⟩
  | .negSucc e => ⟨4 * s - below, 4 * s, 4 * s + 2, 2 ^ (e + 1), even⟩

/-- The power of ten of the leading digit of `n / d`. -/
def leadingPower (n d : Nat) : Int :=
  if d ≤ n then (Text.decimal (n / d)).length - 1
  else -((Text.decimal ((d + n - 1) / n - 1)).length : Int)

/-- Whether `count * 10 ^ power` lies in the interval. -/
def Span.admits (s : Span) (count : Nat) (power : Int) : Bool :=
  let (scaled, unit) := match power with
    | .ofNat e => (count * 10 ^ e * s.denominator, 1)
    | .negSucc e => (count * s.denominator, 10 ^ (e + 1))
  if s.closed then s.low * unit ≤ scaled && scaled ≤ s.high * unit
  else s.low * unit < scaled && scaled < s.high * unit

/-- The neighbours of the value on the grid of step `10 ^ power`, and twice the part above the lower
one compared with a whole step. -/
def Span.neighbour (s : Span) (power : Int) : Nat × Ordering :=
  let (n, d) := match power with
    | .ofNat e => (s.value, s.denominator * 10 ^ e)
    | .negSucc e => (s.value * 10 ^ (e + 1), s.denominator)
  (n / d, compare (2 * (n % d)) d)

/-- The point of one grid that stands for the value, if the grid has one. -/
def Span.onGrid (s : Span) (tie : Tie) (power : Int) : Option Nat :=
  let (lower, half) := s.neighbour power
  match s.admits lower power, s.admits (lower + 1) power with
  | false, false => none
  | true, false => some lower
  | false, true => some (lower + 1)
  | true, true =>
    match half with
    | .lt => some lower
    | .gt => some (lower + 1)
    | .eq => if tie = .toEven ∧ lower % 2 = 0 then some lower else some (lower + 1)

/-- Trailing zeros move into the power. -/
def Decimal.normal (count : Nat) (power : Int) : Nat → Decimal
  | 0 => ⟨count, power⟩
  | fuel + 1 =>
    if count ≠ 0 ∧ count % 10 = 0 then Decimal.normal (count / 10) (power + 1) fuel
    else ⟨count, power⟩

/-- The shortest decimal that reads back as the positive finite double `x`. -/
def shortest (tie : Tie) (x : Double) : Decimal :=
  let s := x.span
  let leading := leadingPower s.value s.denominator
  let found := (List.range 17).findSome? fun (k : Nat) =>
    (s.onGrid tie (leading - k)).map fun count => Decimal.normal count (leading - k) 18
  found.getD ⟨x.significand, x.exponent⟩

end Intake.Double
