import Intake.Instant.Reader

/-! # Date layouts

The six layouts in which a text may name an instant. A layout has a fixed shape, a list of
character classes that the whole text must follow; a text of the right shape is then read.
-/

namespace Intake

inductive DateLayout where
  | rfc3339
  | rfc3339Fractional
  | dateOnly
  | spaceSeparated
  | noZone
  | numericOffset
deriving DecidableEq, Repr

namespace DateLayout
open Text Instant

/-- The layouts in the order in which they are tried. -/
def all : List DateLayout :=
  [rfc3339, rfc3339Fractional, dateOnly, spaceSeparated, noZone, numericOffset]

/-- A digit for each `9` of the model, and its other characters as they are. -/
def follows? : List Char → List Char → Option (List Char)
  | [], text => some text
  | m :: model, c :: text =>
    if (if m = '9' then isDigit c else c = m) then follows? model text else none
  | _ :: _, [] => none

def dayModel : List Char := "9999-99-99".toList

def clockModel : List Char := "99:99:99".toList

def offsetModel (sign : Char) : List Char := sign :: "99:99".toList

def isOffset (text : List Char) : Bool :=
  follows? (offsetModel '+') text = some [] || follows? (offsetModel '-') text = some []

def isZone (text : List Char) : Bool := text = ['Z'] || isOffset text

/-- A point, digits and a zone. -/
def isFractionAndZone : List Char → Bool
  | '.' :: rest => rest.takeWhile isDigit ≠ [] && isZone (rest.dropWhile isDigit)
  | _ => false

/-- Day, separator and clock, with a condition on the rest. -/
def isDayAndClock (separator : Char) (rest : List Char → Bool) (text : List Char) : Bool :=
  match follows? (dayModel ++ separator :: clockModel) text with
  | some tail => rest tail
  | none => false

def matchesShape (layout : DateLayout) (text : List Char) : Bool :=
  match layout with
  | rfc3339 => isDayAndClock 'T' isZone text
  | rfc3339Fractional => isDayAndClock 'T' isFractionAndZone text
  | dateOnly => follows? dayModel text = some []
  | spaceSeparated => isDayAndClock ' ' List.isEmpty text
  | noZone => isDayAndClock 'T' List.isEmpty text
  | numericOffset => isDayAndClock 'T' isOffset text

/-- Midnight in universal time. -/
def readDateOnly? (text : List Char) : Option Instant := do
  let (day, rest) ← readDay? text
  if rest = [] then ofLocal? day ⟨0, 0, 0, 0⟩ 0 else none

/-- Without a zone the time is universal. -/
def readZoneless? (text : List Char) : Option Instant := do
  let (day, text) ← readDay? text
  let text ← separator? text
  let (hour, minute, second, rest) ← readClock? text
  if rest = [] then ofLocal? day ⟨hour, minute, second, 0⟩ 0 else none

def read? (layout : DateLayout) (text : List Char) : Option Instant :=
  if layout.matchesShape text then
    match layout with
    | rfc3339 | rfc3339Fractional | numericOffset => Instant.read? text
    | dateOnly => readDateOnly? text
    | spaceSeparated | noZone => readZoneless? text
  else none

end DateLayout

/-- The instant that a text names in the first layout that admits it. -/
def Instant.ofDateText? (text : List Char) : Option Instant :=
  DateLayout.all.findSome? fun layout => layout.read? text

end Intake
