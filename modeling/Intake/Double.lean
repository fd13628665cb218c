import Intake.Powers

/-! # Doubles of 64 bits

A double is a sign and its rank among the nonnegative doubles: rank zero is `0.0`, each rank is
the next double, `infinityRank` is infinity and the ranks beyond it are not numbers. Numeric order
is the order of signed ranks, so comparisons need no arithmetic on fractions.
-/

namespace Intake

structure Double where
  negative : Bool
  rank : Nat
  rank_lt : rank < 2 ^ 63
deriving DecidableEq

namespace Double

/-- The rank of infinity: eleven exponent bits, all set. -/
def infinityRank : Nat := 2047 * 2 ^ 52

def ofRank (negative : Bool) (rank : Nat) : Double :=
  if h : rank < 2 ^ 63 then ⟨negative, rank, h⟩ else ⟨negative, infinityRank, by decide⟩

def zero : Double := ⟨false, 0, by decide⟩

def notANumber : Double := ⟨false, infinityRank + 2 ^ 51, by decide⟩

instance : Inhabited Double := ⟨zero⟩

def bits (x : Double) : Nat := (if x.negative then 2 ^ 63 else 0) + x.rank

def ofBits (n : Nat) : Double := ofRank (2 ^ 63 ≤ n) (n % 2 ^ 63)

def isNaN (x : Double) : Bool := infinityRank < x.rank

def isFinite (x : Double) : Bool := x.rank < infinityRank

/-- Both zeros have order zero. -/
def order (x : Double) : Int := if x.negative then -(x.rank : Int) else x.rank

/-- Numeric order; nothing is below or above what is not a number. -/
def lt (x y : Double) : Bool := !x.isNaN && !y.isNaN && decide (x.order < y.order)

/-- Numeric equality: the zeros are equal, and what is not a number equals nothing. -/
def same (x y : Double) : Bool := !x.isNaN && !y.isNaN && decide (x.order = y.order)

/-- A finite double is its significand times two to its exponent. -/
def significand (x : Double) : Nat :=
  if x.rank < 2 ^ 52 then x.rank else x.rank % 2 ^ 52 + 2 ^ 52

def exponent (x : Double) : Int :=
  if x.rank < 2 ^ 52 then -1074 else (x.rank / 2 ^ 52 : Nat) - 1075

/-- The part before the point, cut toward zero. -/
def truncated (x : Double) : Int :=
  let size : Nat := match x.exponent with
    | .ofNat e => x.significand * 2 ^ e
    | .negSucc e => x.significand / 2 ^ (e + 1)
  if x.negative then -size else size

end Double
end Intake
