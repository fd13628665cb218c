import Intake.Instant

/-! # Written instants

Instants are written in universal time with a `Z`. `text` keeps the least of 0, 3, 6 or 9 fraction
digits that loses nothing, `secondText` none. Years outside 0 to 9999 carry a sign.
-/

namespace Intake.Instant
open Text

def yearText (year : Int) : List Char :=
  if 0 ≤ year ∧ year ≤ 9999 then padded 4 (decimal year.toNat)
  else (if year < 0 then '-' else '+') :: padded 4 (decimal year.natAbs)

def twoDigits (n : Nat) : List Char := padded 2 (decimal n)

def dayText (d : CalendarDay) : List Char :=
  yearText d.year ++ '-' :: twoDigits d.month ++ '-' :: twoDigits d.day

def clockText (t : TimeOfDay) : List Char :=
  twoDigits t.hour ++ ':' :: twoDigits t.minute ++ ':' :: twoDigits t.second

def fractionText (nano : Nat) : List Char :=
  if nano = 0 then []
  else if nano % 1000000 = 0 then '.' :: padded 3 (decimal (nano / 1000000))
  else if nano % 1000 = 0 then '.' :: padded 6 (decimal (nano / 1000))
  else '.' :: padded 9 (decimal nano)

def text (t : Instant) : List Char :=
  dayText t.day ++ 'T' :: clockText t.timeOfDay ++ fractionText t.timeOfDay.nano ++ ['Z']

def secondText (t : Instant) : List Char :=
  dayText t.day ++ 'T' :: clockText t.timeOfDay ++ ['Z']

end Intake.Instant
