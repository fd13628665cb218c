import Intake.Event
import Intake.Json.Record
import Intake.Paging
import Intake.Record

/-! # Requests and replies

The bodies that operations take and what they answer, as JSON. Times in replies are cut to whole
seconds.
-/

namespace Intake

structure ProductRequest where
  name : String
  description : String
  schema : Value
deriving DecidableEq

structure LeadRequest where
  productId : String
  data : Value
deriving DecidableEq

/-- A body that is read as a record of fields. -/
class Body (α : Type) where
  fields : List Json.Field
  ofRow : Json.Row → α

/-- New data for a lead, or data to try. -/
structure DataRequest where
  data : Value
deriving DecidableEq

/-- A definition to try. -/
structure SchemaRequest where
  schema : Value

namespace Body

instance : Body ProductRequest where
  fields :=
    [.required "name" .text, .optional "description" .text (.str ""), .required "schema" .any]
  ofRow row := ⟨row.text "name", row.text "description", Value.ofJson (row.get "schema")⟩

instance : Body LeadRequest where
  fields := [.required "product_id" .text, .required "data" .any]
  ofRow row := ⟨row.text "product_id", Value.ofJson (row.get "data")⟩

instance : Body DataRequest where
  fields := [.required "data" .any]
  ofRow row := ⟨Value.ofJson (row.get "data")⟩

instance : Body SchemaRequest where
  fields := [.required "schema" .any]
  ofRow row := ⟨Value.ofJson (row.get "schema")⟩

variable {α : Type} [Body α]

/-- Reads a body; text behind it is refused unless it is let pass. -/
def read (trailing : Bool) (text : String) : Except Json.Fault α :=
  (Json.readRow (fields α) trailing text.toList).map ofRow

end Body

namespace Reply

def time (t : Instant) : Json := .str (String.ofList t.secondText)

def product (p : Product) : Json := .obj
  [("id", .str p.id), ("name", .str p.name), ("description", .str p.description),
    ("schema", p.schema.toJson), ("created_at", time p.createdAt),
    ("updated_at", time p.updatedAt)]

def lead (l : Lead) : Json := .obj
  [("id", .str l.id), ("product_id", .str l.productId), ("data", l.data.toJson),
    ("created_at", time l.createdAt), ("updated_at", time l.updatedAt)]

/-- A page of products and the number of all products. -/
def products (page : List Product × Nat) : Json :=
  .obj [("products", .arr (page.1.map product)), ("total", .int page.2)]

def leads (page : List Lead × Nat) : Json :=
  .obj [("leads", .arr (page.1.map lead)), ("total", .int page.2)]

def valid : Json := .obj [("valid", .bool true)]

def counters (c : Counters) : Json :=
  .obj (Counter.all.map fun counter => (counter.name, .int (c.value counter).toNat))

end Reply

end Intake
