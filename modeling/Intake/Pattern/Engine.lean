import Intake.Pattern.Reader

/-! # Engines

What a pattern asks for may take more room than the engine that runs it allows. How much it takes
depends on how the engine compiles, of which nothing is said here: an engine is a parameter of all
that reads patterns. Where a program names none, the room is estimated.
-/

namespace Intake.Pattern

/-- The sources that an engine has room for, among those that can be read. -/
class Engine where
  affords : String → Bool

namespace Estimate

/-- About how many bytes a set takes: one state for each byte of a single character, and for other
sets a table whose size depends on the ranges. -/
def ofSet (set : CharSet) : Nat :=
  match set.ranges with
  | [(low, high)] =>
    if low = high then 32 * (Char.ofNat low).utf8Size
    else if high ≤ 0x7F then 64 else 330
  | ranges => if set.isAscii then 64 + 8 * ranges.length else 300 + 52 * ranges.length

/-- About how many bytes an expression takes. -/
def ofRegex : Regex → Nat
  | .empty => 32
  | .chars set => ofSet set
  | .anchor _ => 32
  | .seq a b => ofRegex a + ofRegex b
  | .alt a b => ofRegex a + ofRegex b + 40
  | .rep r least none => max least 1 * ofRegex r + 40
  | .rep r least (some most) => least * ofRegex r + (most - least) * (ofRegex r + 40)

def greatest : Nat := 10 * 2 ^ 20

end Estimate

instance : Engine where
  affords source := (Regex.read? source).any fun r => Estimate.ofRegex r ≤ Estimate.greatest

end Intake.Pattern
