import Intake.Service.Message
import Intake.Service.Task
import Intake.Validation

/-! # The service

Operations on products and leads. A product is accepted if its definition can be read strictly, a
lead if its data conforms to the definition of its product, read leniently. Only what passed is
stored.
-/

namespace Intake

/-- What the service asks of data and how long its pages are. -/
structure Policy where
  rules : Rules := {}
  limits : PageLimits := {}

/-- Whether a check comes before a write or only answers. -/
inductive Gate where
  | write
  | dryRun
deriving DecidableEq

namespace Gate

def dataRejected : Gate → Event
  | write => .leadRejected
  | dryRun => .validationFailed

def schemaRejected : Gate → Event
  | write => .schemaRejected
  | dryRun => .validationFailed

end Gate

/-- A task that may fail. -/
abbrev Operation := ExceptT ServiceError Task

namespace Operation

def note (notice : Notice) : Operation Unit := ExceptT.lift (.note notice (.done ()))

def count (counter : Counter) : Operation Unit := ExceptT.lift (.count counter (.done ()))

def call {β : Type} (c : StoreCall β) : Operation (Except StorageError β) :=
  ExceptT.lift (.call c .done)

/-- Logs an error of the store, unless a record was only not there, and fails with it. -/
def storageFailure {β : Type} (e : StorageError) : Operation β := do
  if !e.isNotFound then
    note (.failed (if e.isFatal then .storeCorrupt else .storageFailure) e.code)
  throw (.ofStorage e)

def ask {β : Type} (c : StoreCall β) : Operation β := do
  match ← call c with
  | .ok b => pure b
  | .error e => storageFailure e

variable [Pattern.Engine]

def checkDefinition (gate : Gate) (definition : Value) : Operation Unit :=
  match Schema.ofDefinition definition with
  | .ok _ => pure ()
  | .error e => do
    count .schemasRejected
    note (.rejected gate.schemaRejected e.code)
    throw (.invalidSchema e)

def noteAll : List DefinitionNotice → Operation Unit
  | [] => pure ()
  | n :: rest => do
    note (.definition n)
    noteAll rest

def checkData (rules : Rules) (gate : Gate) (productId : String) (data : Value) :
    Operation Unit := do
  let product ← ask (.getProduct productId)
  let (schema, notices) := Schema.ofStored product.schema
  noteAll notices
  match schema.validate rules data with
  | .ok () =>
    count .validationsPassed
    if gate = .dryRun then note (.done .validationPassed)
  | .error f =>
    count .validationsFailed
    note (.rejected gate.dataRejected f.code)
    throw (.invalidData f)

def createProduct (id : String) (now : Instant) (request : ProductRequest) :
    Operation Product := do
  checkDefinition .write request.schema
  let product : Product := ⟨id, request.name, request.description, request.schema, now, now⟩
  ask (.insertProduct product)
  count .productsCreated
  note (.done .productCreated)
  pure product

def getProduct (id : String) : Operation Product := ask (.getProduct id)

/-- Replaces name, description and definition. -/
def updateProduct (id : String) (now : Instant) (request : ProductRequest) :
    Operation Product := do
  checkDefinition .write request.schema
  let old ← ask (.getProduct id)
  let product : Product :=
    { old with
      name := request.name
      description := request.description
      schema := request.schema
      updatedAt := now }
  ask (.updateProduct product)
  count .productsUpdated
  note (.done .productUpdated)
  pure product

/-- The leads of the product are kept. -/
def deleteProduct (id : String) : Operation Unit := do
  ask (.deleteProduct id)
  count .productsDeleted
  note (.done .productDeleted)

/-- A page of products and the number of all of them. -/
def listProducts (limits : PageLimits) (query : ListQuery) : Operation (List Product × Nat) := do
  let rows ← ask (.listProducts (limits.resolve query))
  let total ← ask .countProducts
  pure (rows, total)

def createLead (rules : Rules) (id : String) (now : Instant) (request : LeadRequest) :
    Operation Lead := do
  checkData rules .write request.productId request.data
  let lead : Lead := ⟨id, request.productId, request.data, now, now⟩
  ask (.insertLead lead)
  count .leadsCreated
  note (.done .leadCreated)
  pure lead

def getLead (id : String) : Operation Lead := ask (.getLead id)

/-- Replaces the data, if it conforms to the definition that the product has now. -/
def updateLead (rules : Rules) (id : String) (now : Instant) (data : Value) :
    Operation Lead := do
  let old ← ask (.getLead id)
  checkData rules .write old.productId data
  let lead : Lead := { old with data := data, updatedAt := now }
  ask (.updateLead lead)
  count .leadsUpdated
  note (.done .leadUpdated)
  pure lead

def deleteLead (id : String) : Operation Unit := do
  ask (.deleteLead id)
  count .leadsDeleted
  note (.done .leadDeleted)

/-- A page of leads and the number of all that the query is about. -/
def listLeads (limits : PageLimits) (query : ListQuery) : Operation (List Lead × Nat) := do
  let rows ← ask (.listLeads query.productId? (limits.resolve query))
  let total ← ask (.countLeads query.productId?)
  pure (rows, total)

/-- Tries data against a product without storing it. -/
def validateData (rules : Rules) (productId : String) (data : Value) : Operation Unit :=
  checkData rules .dryRun productId data

/-- Tries a definition without storing it. -/
def checkSchema (definition : Value) : Operation Unit := do
  checkDefinition .dryRun definition
  note (.done .validationPassed)

end Operation

/-- Runs an operation on a service. -/
def Service.perform {α : Type} (s : Service) (op : Operation α) : Ran (Except ServiceError α) :=
  Task.run op.run s

end Intake
