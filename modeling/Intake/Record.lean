import Intake.Instant.Text
import Intake.Json.Record
import Intake.Value.Document

/-! # Records

A product carries the definition of a schema, a lead carries data for a product. Both are stored as
JSON objects whose times keep their fractions.
-/

namespace Intake

structure Product where
  id : String
  name : String
  description : String
  schema : Value
  createdAt : Instant
  updatedAt : Instant
deriving DecidableEq

structure Lead where
  id : String
  productId : String
  data : Value
  createdAt : Instant
  updatedAt : Instant
deriving DecidableEq

inductive RecordKind where
  | product
  | lead
deriving DecidableEq

namespace RecordKind

/-- The folder that holds the records of a kind. -/
def folder : RecordKind → String
  | product => "products"
  | lead => "leads"

end RecordKind

/-- What a store needs to know of its records. -/
class Record (α : Type) where
  kind : RecordKind
  id : α → String
  createdAt : α → Instant
  fields : List Json.Field
  ofRow : Json.Row → α
  toJson : α → Json

namespace Record

def timeJson (t : Instant) : Json := .str (String.ofList t.text)

instance : Record Product where
  kind := .product
  id := Product.id
  createdAt := Product.createdAt
  fields :=
    [.required "id" .text, .required "name" .text, .optional "description" .text (.str ""),
      .required "schema" .any, .required "created_at" .moment, .required "updated_at" .moment]
  ofRow row :=
    { id := row.text "id"
      name := row.text "name"
      description := row.text "description"
      schema := Value.ofJson (row.get "schema")
      createdAt := row.moment "created_at"
      updatedAt := row.moment "updated_at" }
  toJson p := .obj
    [("id", .str p.id), ("name", .str p.name), ("description", .str p.description),
      ("schema", p.schema.toJson), ("created_at", timeJson p.createdAt),
      ("updated_at", timeJson p.updatedAt)]

instance : Record Lead where
  kind := .lead
  id := Lead.id
  createdAt := Lead.createdAt
  fields :=
    [.required "id" .text, .required "product_id" .text, .required "data" .any,
      .required "created_at" .moment, .required "updated_at" .moment]
  ofRow row :=
    { id := row.text "id"
      productId := row.text "product_id"
      data := Value.ofJson (row.get "data")
      createdAt := row.moment "created_at"
      updatedAt := row.moment "updated_at" }
  toJson l := .obj
    [("id", .str l.id), ("product_id", .str l.productId), ("data", l.data.toJson),
      ("created_at", timeJson l.createdAt), ("updated_at", timeJson l.updatedAt)]

variable {α : Type} [Record α]

/-- The form of a record in its file. -/
def fileText (r : α) : String := (toJson r).pretty

def read (text : String) : Except Json.Fault α :=
  (Json.readRow (fields α) false text.toList).map ofRow

/-- Records are listed by time of creation, and by id where the times agree. -/
def precedes (r s : α) : Bool :=
  (createdAt r).before (createdAt s) || createdAt r = createdAt s && id r ≤ id s

end Record

end Intake
