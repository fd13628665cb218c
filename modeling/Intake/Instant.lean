import Intake.Calendar
import Intake.Text.Digits

/-! # Instants

An instant is a count of whole seconds from the start of 1970 in universal time, rounded down, and
nanoseconds above it. A leap second is the second before it with a thousand million nanoseconds
more. The range of years is that of the stored form.
-/

namespace Intake

structure Instant where
  second : Int
  nano : Nat
deriving DecidableEq, Repr

structure TimeOfDay where
  hour : Nat
  minute : Nat
  second : Nat
  nano : Nat
deriving DecidableEq, Repr

/-- A second of 60 is a leap second, admitted in any minute. -/
def TimeOfDay.isReal (t : TimeOfDay) : Bool := t.hour ≤ 23 && t.minute ≤ 59 && t.second ≤ 60

namespace Instant

def firstSecond : Int := CalendarDay.dayNumber ⟨-262143, 1, 1⟩ * 86400

/-- The first second after the range. -/
def endSecond : Int := CalendarDay.dayNumber ⟨262143, 1, 1⟩ * 86400

def inRange (t : Instant) : Bool := firstSecond ≤ t.second && t.second < endSecond

/-- The instant of a local day and time, `offset` seconds ahead of universal time. -/
def ofLocal? (day : CalendarDay) (time : TimeOfDay) (offset : Int) : Option Instant :=
  if day.isReal && time.isReal then
    let second := min time.second 59
    let nano := if time.second = 60 then time.nano + 1000000000 else time.nano
    let clock : Int := time.hour * 3600 + time.minute * 60 + second
    let instant : Instant := ⟨day.dayNumber * 86400 + clock - offset, nano⟩
    if instant.inRange then some instant else none
  else none

/-- The instant so many thousandths of a second from the start of 1970. -/
def ofMillis? (millis : Int) : Option Instant :=
  let instant : Instant := ⟨millis / 1000, (millis % 1000).toNat * 1000000⟩
  if instant.inRange then some instant else none

def day (t : Instant) : CalendarDay := CalendarDay.ofDayNumber (t.second / 86400)

def timeOfDay (t : Instant) : TimeOfDay :=
  let clock := (t.second % 86400).toNat
  let leap := 1000000000 ≤ t.nano
  ⟨clock / 3600, clock / 60 % 60, if leap then clock % 60 + 1 else clock % 60,
    if leap then t.nano - 1000000000 else t.nano⟩

def before (s t : Instant) : Bool :=
  s.second < t.second || s.second = t.second && s.nano < t.nano

end Instant
end Intake
