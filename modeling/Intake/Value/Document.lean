import Intake.Value
import Intake.Json.Reader
import Intake.Json.Writer
import Intake.Instant.Text
import Intake.Instant.Reader

/-! # Values in documents

Dates and store timestamps have no form of their own in JSON and travel as objects of one member,
`$date` or `$timestamp`. An object that only resembles such a wrapper stays an object.
-/

namespace Intake.Value

/-- Integers beyond 64 bits with a sign become doubles. -/
def ofInteger (n : Int) : Value :=
  if -2 ^ 63 ≤ n ∧ n < 2 ^ 63 then int (Int64.ofInt n) else float (Double.ofInt n)

/-- A text in the strict form of instants, or a count of thousandths of a second. -/
def dateOf? : Json → Option Value
  | .str s => (Instant.read? s.toList).map date
  | .int n => if -2 ^ 63 ≤ n ∧ n < 2 ^ 63 then (Instant.ofMillis? n).map date else none
  | _ => none

/-- An object with the members `t` and `i`, both of 32 bits, and whatever else. -/
def timestampOf? : Json → Option Value
  | .obj members => do
    let time ← (← members.lookup "t").word32?
    let increment ← (← members.lookup "i").word32?
    some (timestamp ⟨time, increment⟩)
  | _ => none

/-- The native value that an object of one member wraps. -/
def wrapped? : List (String × Json) → Option Value
  | [(key, value)] =>
    if key = "$date" then dateOf? value
    else if key = "$timestamp" then timestampOf? value
    else none
  | _ => none

mutual

def ofJson : Json → Value
  | .null => null
  | .bool b => bool b
  | .int n => ofInteger n
  | .float x => float x
  | .str s => text s
  | .arr items => array (ofItems items)
  | .obj members =>
    match wrapped? members with
    | some native => native
    | none => object (ofJsonMembers members)

def ofItems : List Json → List Value
  | [] => []
  | item :: rest => ofJson item :: ofItems rest

def ofJsonMembers : List (String × Json) → List (String × Value)
  | [] => []
  | (key, value) :: rest => (key, ofJson value) :: ofJsonMembers rest

end

def wrapDate (t : Instant) : Json := .obj [("$date", .str (String.ofList t.text))]

def wrapTimestamp (t : StoreTimestamp) : Json :=
  .obj [("$timestamp",
    .obj [("t", .int t.time.toNat), ("i", .int t.increment.toNat)])]

mutual

/-- What is no finite number has no form in JSON and becomes `null`. -/
def toJson : Value → Json
  | null => .null
  | bool b => .bool b
  | int n => .int n.toInt
  | float x => if x.isFinite then .float x else .null
  | text s => .str s
  | date t => wrapDate t
  | timestamp t => wrapTimestamp t
  | array items => .arr (toItems items)
  | object members => .obj (toJsonMembers members)

def toItems : List Value → List Json
  | [] => []
  | item :: rest => toJson item :: toItems rest

def toJsonMembers : List (String × Value) → List (String × Json)
  | [] => []
  | (key, value) :: rest => (key, toJson value) :: toJsonMembers rest

end

def read? (text : String) : Option Value := (Json.read? text.toList).map ofJson

def written (v : Value) : String := v.toJson.compact

end Intake.Value
