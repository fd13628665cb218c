import Intake.Kind
import Intake.Value
import Intake.DateLayout
import Intake.Double.Rounding

/-! # Classification

One kind may be met by values of several representations. Classification settles once whether a
value meets a kind and, if so, as what; otherwise it says why not.
-/

namespace Intake

/-- A value that met its kind, in normal form. -/
inductive Classified where
  | null
  | text (s : String)
  | number (x : Double)
  | bool (b : Bool)
  | array (items : List Value)
  | object (members : List (String × Value))
  | date (t : Instant)
  | timestamp (seconds : Int)

inductive Mismatch where
  | mustNotBeNull
  | mustBeNull
  | wrongKind (kind : Kind)
  | invalidDateText
  | invalidTimestampText
deriving DecidableEq, Repr

namespace Mismatch

def kindMessage : Kind → String
  | .null => "must be null"
  | .string => "must be a string"
  | .number => "must be a number"
  | .double => "must be a double (floating-point)"
  | .boolean => "must be a boolean"
  | .array => "must be an array"
  | .object => "must be an object"
  | .date => "must be a date (native date or ISO string)"
  | .timestamp => "must be a timestamp (integer, numeric string, or store timestamp)"

def message : Mismatch → String
  | mustNotBeNull => "must not be null"
  | mustBeNull => "must be null"
  | wrongKind kind => kindMessage kind
  | invalidDateText => "must be a valid ISO date string (e.g., RFC3339)"
  | invalidTimestampText => "must be a numeric string representing a timestamp"

end Mismatch

namespace Classified

/-- A numeral of 64 bits with an optional sign. -/
def seconds? (text : List Char) : Option Int :=
  (Text.integer? text).filter fun n => -2 ^ 63 ≤ n && n < 2 ^ 63

def dateOfText (s : String) : Except Mismatch Classified :=
  match Instant.ofDateText? s.toList with
  | some t => .ok (.date t)
  | none => .error .invalidDateText

def timestampOfText (s : String) : Except Mismatch Classified :=
  match seconds? s.toList with
  | some n => .ok (.timestamp n)
  | none => .error .invalidTimestampText

end Classified

/-- Whether a value that is not null meets `kind`. -/
def classifyPresent (kind : Kind) (value : Value) : Except Mismatch Classified :=
  match kind, value with
  | .null, _ => .error .mustBeNull
  | .string, .text s => .ok (.text s)
  | .number, .int n => .ok (.number (Double.ofInt n.toInt))
  | .number, .float x => .ok (.number x)
  | .double, .float x => .ok (.number x)
  | .boolean, .bool b => .ok (.bool b)
  | .array, .array items => .ok (.array items)
  | .object, .object members => .ok (.object members)
  | .date, .date t => .ok (.date t)
  | .date, .text s => Classified.dateOfText s
  | .timestamp, .timestamp t => .ok (.timestamp t.time.toNat)
  | .timestamp, .int n => .ok (.timestamp n.toInt)
  | .timestamp, .float x => .ok (.timestamp x.toInt64)
  | .timestamp, .text s => Classified.timestampOfText s
  | kind, _ => .error (.wrongKind kind)

def classify (kind : Kind) : Value → Except Mismatch Classified
  | .null => if kind = .null then .ok .null else .error .mustNotBeNull
  | value => classifyPresent kind value

end Intake
