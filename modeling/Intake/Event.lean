/-! # Events

The events in the life of the service, and the counters of its work.
-/

namespace Intake

inductive Event where
  | configLoaded
  | storeOpened
  | serverStart
  | serving
  | shutdownStart
  | shutdownComplete
  | productCreated
  | productUpdated
  | productDeleted
  | schemaRejected
  | leadCreated
  | leadUpdated
  | leadDeleted
  | leadRejected
  | validationPassed
  | validationFailed
  | storageFailure
  | storeCorrupt
deriving DecidableEq, Repr

namespace Event

def all : List Event :=
  [configLoaded, storeOpened, serverStart, serving, shutdownStart, shutdownComplete,
    productCreated, productUpdated, productDeleted, schemaRejected, leadCreated, leadUpdated,
    leadDeleted, leadRejected, validationPassed, validationFailed, storageFailure, storeCorrupt]

theorem mem_all (e : Event) : e ∈ all := by cases e <;> decide

def name : Event → String
  | configLoaded => "CONFIG_LOADED"
  | storeOpened => "STORE_OPENED"
  | serverStart => "SERVER_START"
  | serving => "SERVER_SERVING"
  | shutdownStart => "SHUTDOWN_START"
  | shutdownComplete => "SHUTDOWN_COMPLETE"
  | productCreated => "PRODUCT_CREATED"
  | productUpdated => "PRODUCT_UPDATED"
  | productDeleted => "PRODUCT_DELETED"
  | schemaRejected => "SCHEMA_REJECTED"
  | leadCreated => "LEAD_CREATED"
  | leadUpdated => "LEAD_UPDATED"
  | leadDeleted => "LEAD_DELETED"
  | leadRejected => "LEAD_REJECTED"
  | validationPassed => "VALIDATION_PASSED"
  | validationFailed => "VALIDATION_FAILED"
  | storageFailure => "STORAGE_FAILURE"
  | storeCorrupt => "STORE_CORRUPT"

def isFatal (e : Event) : Bool := e = storeCorrupt

end Event

inductive Counter where
  | productsCreated
  | productsUpdated
  | productsDeleted
  | leadsCreated
  | leadsUpdated
  | leadsDeleted
  | validationsPassed
  | validationsFailed
  | schemasRejected
deriving DecidableEq, Repr

namespace Counter

def all : List Counter :=
  [productsCreated, productsUpdated, productsDeleted, leadsCreated, leadsUpdated, leadsDeleted,
    validationsPassed, validationsFailed, schemasRejected]

def name : Counter → String
  | productsCreated => "products_created"
  | productsUpdated => "products_updated"
  | productsDeleted => "products_deleted"
  | leadsCreated => "leads_created"
  | leadsUpdated => "leads_updated"
  | leadsDeleted => "leads_deleted"
  | validationsPassed => "validations_passed"
  | validationsFailed => "validations_failed"
  | schemasRejected => "schemas_rejected"

end Counter

/-- The counters of a service; they are words and wrap. -/
structure Counters where
  value : Counter → UInt64

namespace Counters

def zero : Counters := ⟨fun _ => 0⟩

def bump (c : Counters) (counter : Counter) : Counters :=
  ⟨fun other => if other = counter then c.value other + 1 else c.value other⟩

end Counters

end Intake
