import Intake.Text.Digits

/-! # Sets of characters

A set is a list of inclusive ranges of code points. `ofRanges` orders them and joins those that
touch, so that `compl` has only the gaps to collect.
-/

namespace Intake

structure CharSet where
  ranges : List (Nat × Nat)
deriving DecidableEq

namespace CharSet

/-- The last code point. -/
def last : Nat := 0x10FFFF

def contains (set : CharSet) (c : Nat) : Bool :=
  set.ranges.any fun (low, high) => low ≤ c && c ≤ high

/-- Puts a range in front of ranges that begin no earlier, joining those it touches. -/
def attach (low high : Nat) : List (Nat × Nat) → List (Nat × Nat)
  | [] => [(low, high)]
  | (low', high') :: rest =>
    if low' ≤ high + 1 then attach low (max high high') rest
    else (low, high) :: (low', high') :: rest

def ofRanges (ranges : List (Nat × Nat)) : CharSet :=
  ⟨(ranges.mergeSort fun a b => a.1 ≤ b.1).foldr (fun (low, high) rest => attach low high rest) []⟩

def empty : CharSet := ⟨[]⟩

def single (c : Nat) : CharSet := ⟨[(c, c)]⟩

def ascii : CharSet := ⟨[(0, 0x7F)]⟩

def all : CharSet := ⟨[(0, last)]⟩

def union (a b : CharSet) : CharSet := ofRanges (a.ranges ++ b.ranges)

def unions (sets : List CharSet) : CharSet := ofRanges (sets.flatMap CharSet.ranges)

/-- The ranges between `start` and `stop` that a list of ascending ranges leaves free. -/
def gaps (start stop : Nat) : List (Nat × Nat) → List (Nat × Nat)
  | [] => if start ≤ stop then [(start, stop)] else []
  | (low, high) :: rest =>
    if start < low then (start, low - 1) :: gaps (high + 1) stop rest
    else gaps (max start (high + 1)) stop rest

/-- What a set leaves of the code points up to `stop`. -/
def complUpTo (stop : Nat) (set : CharSet) : CharSet := ⟨gaps 0 stop set.ranges⟩

def compl (set : CharSet) : CharSet := set.complUpTo last

def inter (a b : CharSet) : CharSet := (a.compl.union b.compl).compl

def diff (a b : CharSet) : CharSet := a.inter b.compl

def symmDiff (a b : CharSet) : CharSet := (a.union b).diff (a.inter b)

def isAscii (set : CharSet) : Bool := set.ranges.all fun (_, high) => high ≤ 0x7F

/-- Reads ranges such as `41-5A AA`, hexadecimal numbers with blanks between them. -/
def ofText (text : String) : CharSet :=
  let words := text.toList.splitOnP fun c => c == ' ' || c == '\n'
  ofRanges (words.filterMap fun word =>
    match word.splitOn '-' with
    | [low] => if low.isEmpty then none else (Text.hexFrom? 0 low).map fun c => (c, c)
    | [low, high] => (Text.hexFrom? 0 low).bind fun l => (Text.hexFrom? 0 high).map fun h => (l, h)
    | _ => none)

end CharSet

end Intake
