import Intake.Instant
import Intake.Text.Blank

/-! # Reading instants

`read?` takes a four-digit year, two-digit fields and an offset with a colon, at most 23:59 away
from universal time. `readLoose?` is the form of record files: blanks between the fields, fields
of one digit, signed years, `UTC` for an offset and offsets without a colon.
-/

namespace Intake.Instant
open Text

/-- Exactly `count` digits. -/
def digits? (count : Nat) (text : List Char) : Option (Nat × List Char) :=
  let front := text.take count
  if front.length = count ∧ front.all isDigit then some (digitsFrom 0 front, text.drop count)
  else none

def exactly? (c : Char) : List Char → Option (List Char)
  | x :: rest => if x = c then some rest else none
  | [] => none

/-- One digit or more after a point, cut after the ninth. -/
def fraction? (text : List Char) : Option (Nat × List Char) :=
  let run := text.takeWhile isDigit
  let kept := run.take 9
  if kept = [] then none
  else some (digitsFrom 0 kept * 10 ^ (9 - kept.length), text.dropWhile isDigit)

/-- A fraction is present when a point is. -/
def optionalFraction? : List Char → Option (Nat × List Char)
  | '.' :: rest => fraction? rest
  | rest => some (0, rest)

/-- The sign of an offset may be the minus sign of typography. -/
def sign? : List Char → Option (Int × List Char)
  | '+' :: rest => some (1, rest)
  | '-' :: rest => some (-1, rest)
  | '−' :: rest => some (-1, rest)
  | _ => none

/-- Hours, a separator and minutes, in seconds. -/
def offset? (separator : List Char → Option (List Char)) :
    List Char → Option (Int × List Char)
  | 'Z' :: rest => some (0, rest)
  | 'z' :: rest => some (0, rest)
  | text => do
    let (sign, text) ← sign? text
    let (hours, text) ← digits? 2 text
    let text ← separator text
    let (minutes, text) ← digits? 2 text
    if minutes ≤ 59 then some (sign * (hours * 3600 + minutes * 60), text) else none

def greatestOffset : Int := (23 * 60 + 59) * 60

/-- A `T` in either case or a space stands between day and time. -/
def separator? : List Char → Option (List Char)
  | 'T' :: rest => some rest
  | 't' :: rest => some rest
  | ' ' :: rest => some rest
  | _ => none

def readDay? (text : List Char) : Option (CalendarDay × List Char) := do
  let (year, text) ← digits? 4 text
  let text ← exactly? '-' text
  let (month, text) ← digits? 2 text
  let text ← exactly? '-' text
  let (day, text) ← digits? 2 text
  some (⟨year, month, day⟩, text)

def readClock? (text : List Char) : Option (Nat × Nat × Nat × List Char) := do
  let (hour, text) ← digits? 2 text
  let text ← exactly? ':' text
  let (minute, text) ← digits? 2 text
  let text ← exactly? ':' text
  let (second, text) ← digits? 2 text
  some (hour, minute, second, text)

def read? (text : List Char) : Option Instant := do
  let (day, text) ← readDay? text
  let text ← separator? text
  let (hour, minute, second, text) ← readClock? text
  let (nano, text) ← optionalFraction? text
  let (offset, text) ← offset? (exactly? ':') text
  if text = [] ∧ offset.natAbs ≤ greatestOffset then
    ofLocal? day ⟨hour, minute, second, nano⟩ offset
  else none

/-- One digit or two after blanks. -/
def looseField? (text : List Char) : Option (Nat × List Char) :=
  let text := trimStart text
  let run := (text.take 2).takeWhile isDigit
  if run = [] then none else some (digitsFrom 0 run, text.drop run.length)

/-- Up to four digits, or any number of them after a sign. -/
def looseYear? (text : List Char) : Option (Int × List Char) :=
  let numeral (sign : Int) (run rest : List Char) : Option (Int × List Char) :=
    if run = [] then none else some (sign * digitsFrom 0 run, rest)
  match trimStart text with
  | '-' :: text => numeral (-1) (text.takeWhile isDigit) (text.dropWhile isDigit)
  | '+' :: text => numeral 1 (text.takeWhile isDigit) (text.dropWhile isDigit)
  | text =>
    let run := (text.take 4).takeWhile isDigit
    numeral 1 run (text.drop run.length)

def looseMark? (c : Char) (text : List Char) : Option (List Char) := exactly? c (trimStart text)

/-- Universal time by name, or an offset with any run of colons and blanks inside. -/
def looseOffset? (text : List Char) : Option (Int × List Char) :=
  let text := trimStart text
  if (text.take 3).map Char.toUpper = ['U', 'T', 'C'] then some (0, text.drop 3)
  else offset? (fun text => some (text.dropWhile fun c => c = ':' || isBlank c)) text

def readLoose? (text : List Char) : Option Instant := do
  let (year, text) ← looseYear? text
  let text ← looseMark? '-' text
  let (month, text) ← looseField? text
  let text ← looseMark? '-' text
  let (day, text) ← looseField? text
  let text ← separator? text
  let (hour, text) ← looseField? text
  let text ← looseMark? ':' text
  let (minute, text) ← looseField? text
  let text ← looseMark? ':' text
  let (second, text) ← looseField? text
  let (nano, text) ← optionalFraction? text
  let (offset, text) ← looseOffset? text
  if trimStart text = [] ∧ offset.natAbs < 86400 ∧ -262143 ≤ year ∧ year ≤ 262142 then
    ofLocal? ⟨year, month, day⟩ ⟨hour, minute, second, nano⟩ offset
  else none

end Intake.Instant
