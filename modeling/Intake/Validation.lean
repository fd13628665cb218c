import Intake.Schema
import Intake.Validation.Failure

/-! # Validation

Data is checked against a schema field by field in the order of declaration, and the first failure
ends the check. Keys that are not declared are refused, where they are, after all declared fields
of their object.
-/

namespace Intake

/-- What is asked of data beyond its schema. -/
structure Rules where
  rejectUnknown : Bool := false
deriving DecidableEq

namespace Validation

/-- Passes a failure on with a step in front. -/
def under (step : DataStep) : Except Failure Unit → Except Failure Unit
  | .ok () => .ok ()
  | .error f => .error (f.within step)

def ofMismatch (kind : Kind) : Except Mismatch Classified → Except Failure Classified
  | .ok c => .ok c
  | .error why => .error ⟨[], .mismatch kind why⟩

def ofLimit : Except Limit Unit → Except Failure Unit
  | .ok () => .ok ()
  | .error broken => .error ⟨[], .limit broken⟩

/-- Checks elements in order, counting from `i`. -/
def checkElements (check : Value → Except Failure Unit) (i : Nat) :
    List Value → Except Failure Unit
  | [] => .ok ()
  | v :: rest =>
    match under (.index i) (check v) with
    | .ok () => checkElements check (i + 1) rest
    | .error f => .error f

/-- Finds the first key that the schema does not declare. -/
def checkKeys (rules : Rules) (fields : List (String × Field)) (members : List (String × Value)) :
    Except Failure Unit :=
  if rules.rejectUnknown then
    match members.find? fun (key, _) => (fields.lookup key).isNone with
    | some (key, _) => .error ⟨[], .unknown key⟩
    | none => .ok ()
  else .ok ()

mutual

def checkFields (rules : Rules) (members : List (String × Value)) :
    List (String × Field) → Except Failure Unit
  | [] => .ok ()
  | (name, field) :: rest =>
    match members.lookup name with
    | none => if field.required then .error ⟨[], .missing name⟩ else checkFields rules members rest
    | some v =>
      match under (.field name) (checkField rules field v) with
      | .ok () => checkFields rules members rest
      | .error f => .error f

def checkSchema (rules : Rules) (schema : Schema) (members : List (String × Value)) :
    Except Failure Unit :=
  match schema with
  | .mk fields =>
    match checkFields rules members fields with
    | .ok () => checkKeys rules fields members
    | .error f => .error f

def checkField (rules : Rules) (field : Field) (v : Value) : Except Failure Unit :=
  match field with
  | .mk _ shape => checkShape rules shape v

def checkShape (rules : Rules) (shape : Shape) (v : Value) : Except Failure Unit :=
  match ofMismatch shape.kind (classify shape.kind v) with
  | .error f => .error f
  | .ok classified =>
    match shape, classified with
    | .text limits, .text s => ofLimit (limits.check s)
    | .number bounds, .number x => ofLimit (bounds.check x)
    | .double bounds, .number x => ofLimit (bounds.check x)
    | .object (some schema), .object members => checkSchema rules schema members
    | .array (some items), .array vs => checkElements (checkItem rules items) 0 vs
    | _, _ => .ok ()

def checkItem (rules : Rules) (items : Items) (v : Value) : Except Failure Unit :=
  match items with
  | .kind kind =>
    match ofMismatch kind (classify kind v) with
    | .ok _ => .ok ()
    | .error f => .error f
  | .field field => checkField rules field v
  | .schema schema =>
    match ofMismatch .object (classify .object v) with
    | .ok (.object members) => checkSchema rules schema members
    | .ok _ => .ok ()
    | .error f => .error f

end

end Validation

namespace Schema

/-- Checks data, which must be an object, against a schema. -/
def validate (rules : Rules) (schema : Schema) (data : Value) : Except Failure Unit :=
  match data with
  | .object members => Validation.checkSchema rules schema members
  | _ => .error ⟨[], .notObject⟩

end Schema

end Intake
