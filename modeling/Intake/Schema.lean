import Intake.Kind
import Intake.Limits

/-! # Schemas

A schema declares fields in order. The shape of a field goes with its kind, so that only texts have
lengths, only objects a schema of their own and only arrays a rule for their items. `same` is the
equality of schemas: it leaves the order of declarations out and compares patterns by source.
-/

namespace Intake

mutual

inductive Shape where
  | text (limits : TextLimits)
  | number (bounds : Bounds)
  | double (bounds : Bounds)
  | boolean
  | array (items : Option Items)
  | object (nested : Option Schema)
  | null
  | date
  | timestamp

/-- What every element of an array must be. -/
inductive Items where
  | kind (kind : Kind)
  | field (field : Field)
  | schema (schema : Schema)

inductive Field where
  | mk (required : Bool) (shape : Shape)

inductive Schema where
  | mk (fields : List (String × Field))

end

section Identity

mutual

/-- Whether two shapes are one and the same, down to the order of declarations. -/
def Shape.identical : Shape → Shape → Bool
  | .text l, .text m => l == m
  | .number b, .number c => b == c
  | .double b, .double c => b == c
  | .array (some i), .array (some j) => i.identical j
  | .object (some s), .object (some t) => s.identical t
  | .boolean, .boolean | .array none, .array none | .object none, .object none => true
  | .null, .null | .date, .date | .timestamp, .timestamp => true
  | _, _ => false

def Items.identical : Items → Items → Bool
  | .kind k, .kind l => k == l
  | .field f, .field g => f.identical g
  | .schema s, .schema t => s.identical t
  | _, _ => false

def Field.identical : Field → Field → Bool
  | .mk required shape, .mk required' shape' =>
    required == required' && shape.identical shape'

def Schema.identical : Schema → Schema → Bool
  | .mk fields, .mk fields' => Schema.identicalFields fields fields'

def Schema.identicalFields : List (String × Field) → List (String × Field) → Bool
  | [], [] => true
  | (k, f) :: fs, (l, g) :: gs => k == l && f.identical g && Schema.identicalFields fs gs
  | _, _ => false

end

mutual

theorem Shape.identical_iff : (s t : Shape) → (s.identical t = true ↔ s = t)
  | .array (some i), t => by
    rcases t with _ | _ | _ | _ | (_ | j) <;> simp [Shape.identical, Items.identical_iff i]
  | .object (some s), t => by
    rcases t with _ | _ | _ | _ | _ | (_ | u) <;> simp [Shape.identical, Schema.identical_iff s]
  | .array none, t => by rcases t with _ | _ | _ | _ | (_ | j) <;> simp [Shape.identical]
  | .object none, t => by rcases t with _ | _ | _ | _ | _ | (_ | u) <;> simp [Shape.identical]
  | .text _, t | .number _, t | .double _, t | .boolean, t | .null, t | .date, t
  | .timestamp, t => by cases t <;> simp [Shape.identical]

theorem Items.identical_iff : (i j : Items) → (i.identical j = true ↔ i = j)
  | .kind _, j => by cases j <;> simp [Items.identical]
  | .field f, j => by cases j <;> simp [Items.identical, Field.identical_iff f]
  | .schema s, j => by cases j <;> simp [Items.identical, Schema.identical_iff s]

theorem Field.identical_iff : (f g : Field) → (f.identical g = true ↔ f = g)
  | .mk _ shape, .mk _ _ => by simp [Field.identical, Shape.identical_iff shape]

theorem Schema.identical_iff : (s t : Schema) → (s.identical t = true ↔ s = t)
  | .mk fields, .mk _ => by simp [Schema.identical, Schema.identicalFields_iff fields]

theorem Schema.identicalFields_iff :
    (fs gs : List (String × Field)) → (Schema.identicalFields fs gs = true ↔ fs = gs)
  | [], gs => by cases gs <;> simp [Schema.identicalFields]
  | (_, _) :: _, [] => by simp [Schema.identicalFields]
  | (_, f) :: fs, (_, _) :: _ => by
    simp [Schema.identicalFields, Field.identical_iff f, Schema.identicalFields_iff fs]

end

instance : DecidableEq Schema := fun s t => decidable_of_iff _ (s.identical_iff t)

end Identity

namespace Shape

def kind : Shape → Kind
  | text _ => .string
  | number _ => .number
  | double _ => .double
  | boolean => .boolean
  | array _ => .array
  | object _ => .object
  | null => .null
  | date => .date
  | timestamp => .timestamp

def textLimits : Shape → TextLimits
  | text limits => limits
  | _ => {}

def bounds : Shape → Bounds
  | number bounds => bounds
  | double bounds => bounds
  | _ => {}

def nested? : Shape → Option Schema
  | object nested => nested
  | _ => none

def items? : Shape → Option Items
  | array items => items
  | _ => none

end Shape

namespace Field

def required : Field → Bool
  | mk required _ => required

def shape : Field → Shape
  | mk _ shape => shape

def kind (f : Field) : Kind := f.shape.kind

end Field

namespace Schema

def fields : Schema → List (String × Field)
  | mk fields => fields

def empty : Schema := mk []

instance : Inhabited Schema := ⟨empty⟩

def get? (s : Schema) (name : String) : Option Field := s.fields.lookup name

def declares (s : Schema) (name : String) : Bool := (s.get? name).isSome

end Schema

mutual

def Shape.same : Shape → Shape → Bool
  | .text a, .text b => a == b
  | .number a, .number b => a.same b
  | .double a, .double b => a.same b
  | .boolean, .boolean => true
  | .array none, .array none => true
  | .array (some a), .array (some b) => Items.same a b
  | .object none, .object none => true
  | .object (some a), .object (some b) => Schema.same a b
  | .null, .null => true
  | .date, .date => true
  | .timestamp, .timestamp => true
  | _, _ => false
termination_by structural a => a

def Items.same : Items → Items → Bool
  | .kind a, .kind b => a == b
  | .field a, .field b => Field.same a b
  | .schema a, .schema b => Schema.same a b
  | _, _ => false
termination_by structural a => a

def Field.same : Field → Field → Bool
  | .mk required shape, .mk required' shape' => required == required' && Shape.same shape shape'
termination_by structural a => a

def Schema.same : Schema → Schema → Bool
  | .mk fields, .mk fields' => fields.length == fields'.length && Schema.sameFields fields fields'
termination_by structural a => a

/-- Each field of the first list is the same as the one declared under its name in the second. -/
def Schema.sameFields : List (String × Field) → List (String × Field) → Bool
  | [], _ => true
  | (name, field) :: rest, others =>
    (match others.lookup name with
      | some other => Field.same field other
      | none => false) && Schema.sameFields rest others
termination_by structural a => a

end

end Intake
