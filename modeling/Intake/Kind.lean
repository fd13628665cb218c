/-! # Kinds

The nine logical kinds of a field and the keys that a definition of each kind may carry.
-/

namespace Intake

inductive Kind where
  | string
  | number
  | double
  | boolean
  | array
  | object
  | null
  | date
  | timestamp
deriving DecidableEq, Repr

namespace Kind

def all : List Kind := [string, number, double, boolean, array, object, null, date, timestamp]

def name : Kind → String
  | string => "string"
  | number => "number"
  | double => "double"
  | boolean => "boolean"
  | array => "array"
  | object => "object"
  | null => "null"
  | date => "date"
  | timestamp => "timestamp"

/-- Each kind by its name, and `bool` for booleans. -/
def ofName? (text : String) : Option Kind :=
  if text = "bool" then some boolean else all.find? fun kind => kind.name = text

theorem ofName?_name (kind : Kind) : ofName? kind.name = some kind := by
  cases kind <;> decide

/-- The keys of a kind's own, in the order in which they are documented. -/
def ownKeys : Kind → List String
  | string => ["pattern", "minLength", "maxLength"]
  | number | double => ["minimum", "maximum"]
  | object => ["properties", "schema"]
  | array => ["items"]
  | boolean | null | date | timestamp => []

def allowsKey (kind : Kind) (key : String) : Bool :=
  ["type", "required", "description"].contains key || kind.ownKeys.contains key

end Kind
end Intake
