import Intake.Double.Shortest

/-! # Written forms of doubles

A style says which powers of ten are written positionally, whether whole numbers keep a point, and
how a tie between two shortest decimals is settled. Documents and messages each have their style.
-/

namespace Intake.Double

structure Style where
  positional : Int → Bool
  wholePoint : Bool
  tie : Tie

/-- Documents: positional from `1e-5` up to but not including `1e16`, with a point. -/
def Style.document : Style := ⟨fun leading => -5 ≤ leading && leading < 16, true, .toEven⟩

/-- Messages: never an exponent, and no point in whole numbers. -/
def Style.message : Style := ⟨fun _ => true, false, .upward⟩

/-- Digits around a point that stands after `whole` of them, which may lie outside the digits. -/
def positionalText (digits : List Char) (whole : Int) (wholePoint : Bool) : List Char :=
  if whole ≤ 0 then '0' :: '.' :: List.replicate (-whole).toNat '0' ++ digits
  else
    let front := digits.take whole.toNat
    let zeros := List.replicate (whole.toNat - front.length) '0'
    let back := digits.drop whole.toNat
    if back.isEmpty then front ++ zeros ++ (if wholePoint then ['.', '0'] else [])
    else front ++ '.' :: back

def exponentText (power : Int) : List Char :=
  'e' :: (if power < 0 then '-' else '+') :: Text.decimal power.natAbs

/-- One digit, a point before the others if there are any, and the exponent. -/
def scientificText (digits : List Char) (leading : Int) : List Char :=
  match digits with
  | [] => exponentText leading
  | [d] => d :: exponentText leading
  | d :: others => d :: '.' :: others ++ exponentText leading

def decimalText (style : Style) (d : Decimal) : List Char :=
  let digits := Text.decimal d.digits
  let leading := digits.length + d.power - 1
  if style.positional leading then positionalText digits (leading + 1) style.wholePoint
  else scientificText digits leading

def magnitudeText (style : Style) (x : Double) : List Char :=
  if x.isNaN then ['N', 'a', 'N']
  else if x.isFinite then
    if x.rank = 0 then positionalText ['0'] 1 style.wholePoint
    else decimalText style (x.shortest style.tie)
  else ['i', 'n', 'f']

def text (style : Style) (x : Double) : List Char :=
  if x.negative && !x.isNaN then '-' :: x.magnitudeText style else x.magnitudeText style

end Intake.Double
