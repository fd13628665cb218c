import Intake.Proofs.Runs
import Intake.Proofs.Tables

/-! # Requests in a row

All that can be asked of a service, and what a service becomes that is asked one thing after the
other. What one request may do to the tables is said once, by `Effect`.
-/

namespace Intake

/-- What a service is asked, with the id and the time that the operation is to use. -/
inductive Request where
  | createProduct (id : String) (now : Instant) (body : ProductRequest)
  | getProduct (id : String)
  | updateProduct (id : String) (now : Instant) (body : ProductRequest)
  | deleteProduct (id : String)
  | listProducts (query : ListQuery)
  | createLead (id : String) (now : Instant) (body : LeadRequest)
  | getLead (id : String)
  | updateLead (id : String) (now : Instant) (body : DataRequest)
  | deleteLead (id : String)
  | listLeads (query : ListQuery)
  | validateData (productId : String) (body : DataRequest)
  | checkSchema (body : SchemaRequest)

inductive Answer where
  | product (p : Product)
  | products (page : List Product × Nat)
  | lead (l : Lead)
  | leads (page : List Lead × Nat)
  | done
deriving DecidableEq

open Operation in
def Request.operation [Pattern.Engine] (policy : Policy) : Request → Operation Answer
  | createProduct id now body => Answer.product <$> Operation.createProduct id now body
  | getProduct id => Answer.product <$> Operation.getProduct id
  | updateProduct id now body => Answer.product <$> Operation.updateProduct id now body
  | deleteProduct id => (fun _ => Answer.done) <$> Operation.deleteProduct id
  | listProducts query => Answer.products <$> Operation.listProducts policy.limits query
  | createLead id now body => Answer.lead <$> Operation.createLead policy.rules id now body
  | getLead id => Answer.lead <$> Operation.getLead id
  | updateLead id now body => Answer.lead <$> Operation.updateLead policy.rules id now body.data
  | deleteLead id => (fun _ => Answer.done) <$> Operation.deleteLead id
  | listLeads query => Answer.leads <$> Operation.listLeads policy.limits query
  | validateData productId body =>
    (fun _ => Answer.done) <$> Operation.validateData policy.rules productId body.data
  | checkSchema body => (fun _ => Answer.done) <$> Operation.checkSchema body.schema

namespace Service

variable [Pattern.Engine]

def serve (policy : Policy) (s : Service) (r : Request) : Ran (Except ServiceError Answer) :=
  s.perform (r.operation policy)

/-- The service after some requests. -/
def after (policy : Policy) (s : Service) (requests : List Request) : Service :=
  requests.foldl (fun s r => (s.serve policy r).service) s

/-- The requests, each with the service that it meets. -/
def steps (policy : Policy) (s : Service) : List Request → List (Service × Request)
  | [] => []
  | r :: rest => (s, r) :: steps policy (s.serve policy r).service rest

/-- The requests that a service grants, in the order in which they come. -/
def granted (policy : Policy) (s : Service) : List Request → List Request
  | [] => []
  | r :: rest =>
    match (s.serve policy r).result with
    | .ok _ => r :: granted policy (s.serve policy r).service rest
    | .error _ => granted policy (s.serve policy r).service rest

theorem after_append (policy : Policy) (s : Service) (first second : List Request) :
    s.after policy (first ++ second) = (s.after policy first).after policy second := by
  unfold after
  rw [List.foldl_append]

theorem steps_append (policy : Policy) (s : Service) (first second : List Request) :
    s.steps policy (first ++ second) =
      s.steps policy first ++ (s.after policy first).steps policy second := by
  induction first generalizing s with
  | nil => rfl
  | cons r rest ih => exact congrArg (List.cons (s, r)) (ih _)

end Service

/-- The data that a request submits and the lead that is to hold it. -/
def Request.submitted? : Request → Option (String × Value)
  | createLead id _ body => some (id, body.data)
  | updateLead id _ body => some (id, body.data)
  | _ => none

/-- The lead that a request is to change. -/
def Request.changedLead? : Request → Option String
  | createLead id _ _ => some id
  | updateLead id _ _ => some id
  | deleteLead id => some id
  | _ => none

/-- The product whose definition a request is to set. -/
def Request.definedProduct? : Request → Option String
  | createProduct id _ _ => some id
  | updateProduct id _ _ => some id
  | _ => none

def Request.isForProducts : Request → Bool
  | createProduct _ _ _ | getProduct _ | updateProduct _ _ _ | deleteProduct _ | listProducts _ =>
    true
  | _ => false

/-- A request that only looks: a read, a listing or a dry run. -/
def Request.isLook : Request → Bool
  | getProduct _ | listProducts _ | getLead _ | listLeads _ | validateData _ _ | checkSchema _ =>
    true
  | createProduct _ _ _ | updateProduct _ _ _ | deleteProduct _ | createLead _ _ _
  | updateLead _ _ _ | deleteLead _ => false

theorem Request.changedLead?_of_isLook {r : Request} (look : r.isLook = true) :
    r.changedLead? = none := by
  cases r <;> first | rfl | cases look

/-- Data passes the definition of a product, read leniently. -/
def Product.Passes [Pattern.Engine] (rules : Rules) (p : Product) (data : Value) : Prop :=
  (Schema.ofStored p.schema).1.validate rules data = .ok ()

/-- What a request may answer and what becomes of the tables. -/
inductive Effect [Pattern.Engine] (policy : Policy) (t : Tables) :
    Request → Except ServiceError Answer → Tables → Prop where
  | refused {r : Request} (e : ServiceError) : Effect policy t r (.error e) t
  | read {r : Request} (a : Answer) (look : r.isLook = true) : Effect policy t r (.ok a) t
  | createProduct {id : String} {now : Instant} {body : ProductRequest} {schema : Schema}
      {products : Table Product} (accepted : Schema.ofDefinition body.schema = .ok schema)
      (inserted : t.products.insert? ⟨id, body.name, body.description, body.schema, now, now⟩ =
        some products) :
      Effect policy t (.createProduct id now body)
        (.ok (.product ⟨id, body.name, body.description, body.schema, now, now⟩))
        { t with products := products }
  | updateProduct {id : String} {now : Instant} {body : ProductRequest} {schema : Schema}
      {old new : Product} (accepted : Schema.ofDefinition body.schema = .ok schema)
      (found : t.products.find? id = some old)
      (new_eq : new = { old with name := body.name, description := body.description,
                                 schema := body.schema, updatedAt := now }) :
      Effect policy t (.updateProduct id now body) (.ok (.product new))
        { t with products := t.products.replace new }
  | deleteProduct {id : String} (known : t.products.contains id = true) :
      Effect policy t (.deleteProduct id) (.ok .done)
        { t with products := t.products.remove id }
  | createLead {id : String} {now : Instant} {body : LeadRequest} {product : Product}
      {leads : Table Lead} (found : t.products.find? body.productId = some product)
      (passes : product.Passes policy.rules body.data)
      (inserted : t.leads.insert? ⟨id, body.productId, body.data, now, now⟩ = some leads) :
      Effect policy t (.createLead id now body)
        (.ok (.lead ⟨id, body.productId, body.data, now, now⟩)) { t with leads := leads }
  | updateLead {id : String} {now : Instant} {body : DataRequest} {product : Product}
      {old new : Lead} (found : t.leads.find? id = some old)
      (product_found : t.products.find? old.productId = some product)
      (passes : product.Passes policy.rules body.data)
      (new_eq : new = { old with data := body.data, updatedAt := now }) :
      Effect policy t (.updateLead id now body) (.ok (.lead new))
        { t with leads := t.leads.replace new }
  | deleteLead {id : String} (known : t.leads.contains id = true) :
      Effect policy t (.deleteLead id) (.ok .done) { t with leads := t.leads.remove id }

theorem Effect.congr [Pattern.Engine] {policy : Policy} {t u u' : Tables} {r : Request}
    {result result' : Except ServiceError Answer} (h : Effect policy t r result u)
    (hResult : result' = result) (hTables : u' = u) : Effect policy t r result' u' := by
  subst hResult hTables
  exact h

namespace Service

open Operation

variable {α β : Type} (policy : Policy) (s : Service)

theorem perform_map (f : α → β) (op : Operation α) :
    s.perform (f <$> op) =
      let ran := s.perform op
      { ran with result := ran.result.map f } := by
  rw [← bind_pure_comp, perform_bind]
  obtain ⟨e | a, s', log⟩ := s.perform op
  · rfl
  · simp [Except.map]

theorem perform_ask_of_ok {c : StoreCall β} {b : β} (h : (Store.perform c s.store).1 = .ok b) :
    s.perform (ask c) = ⟨.ok b, { s with store := (Store.perform c s.store).2 }, []⟩ := by
  rw [perform_ask]
  generalize Store.perform c s.store = called at h ⊢
  obtain ⟨result, store⟩ := called
  cases h
  rfl

theorem perform_ask_of_error {c : StoreCall β} {e : StorageError}
    (h : (Store.perform c s.store).1 = .error e) :
    s.perform (ask c) = ⟨.error (.ofStorage e), { s with store := (Store.perform c s.store).2 },
      storageNotices e⟩ := by
  rw [perform_ask]
  generalize Store.perform c s.store = called at h ⊢
  obtain ⟨result, store⟩ := called
  cases h
  rfl

theorem perform_ask_of_read {c : StoreCall β} {b : β}
    (h : Store.perform c s.store = (.ok b, s.store)) : s.perform (ask c) = ⟨.ok b, s, []⟩ := by
  rw [perform_ask, h]

theorem perform_ask_getProduct {id : String} {product : Product}
    (h : s.store.get id = .ok product) :
    s.perform (ask (.getProduct id)) = ⟨.ok product, s, []⟩ :=
  perform_ask_of_read s (congrArg (·, s.store) h)

theorem perform_ask_getLead {id : String} {lead : Lead} (h : s.store.get id = .ok lead) :
    s.perform (ask (.getLead id)) = ⟨.ok lead, s, []⟩ :=
  perform_ask_of_read s (congrArg (·, s.store) h)

section Meeting

variable [Pattern.Engine]

/-- A request does to the tables what `Effect` says of it. -/
def Meets (r : Request) : Prop :=
  Effect policy s.store.tables r (s.serve policy r).result (s.serve policy r).service.store.tables

theorem meets_createProduct (id : String) (now : Instant) (body : ProductRequest) :
    s.Meets policy (.createProduct id now body) := by
  unfold Meets serve Request.operation createProduct
  rw [perform_map, perform_bind, perform_checkDefinition]
  cases hRead : Schema.ofDefinition body.schema with
  | error e => exact .refused _
  | ok schema =>
    let product : Product := ⟨id, body.name, body.description, body.schema, now, now⟩
    rw [Ran.andThen_ok, perform_bind]
    rcases Store.insert_cases s.store product with ⟨products, hInsert, hOk, hTables⟩ |
      ⟨e, hError, hTables⟩
    · rw [perform_ask_of_ok (c := .insertProduct product) s hOk]
      exact (Effect.createProduct hRead hInsert).congr rfl hTables
    · rw [perform_ask_of_error (c := .insertProduct product) s hError]
      exact (Effect.refused _).congr rfl hTables

theorem meets_updateProduct (id : String) (now : Instant) (body : ProductRequest) :
    s.Meets policy (.updateProduct id now body) := by
  unfold Meets serve Request.operation updateProduct
  rw [perform_map, perform_bind, perform_checkDefinition]
  cases hRead : Schema.ofDefinition body.schema with
  | error e => exact .refused _
  | ok schema =>
    rw [Ran.andThen_ok, perform_bind]
    cases hGet : (s.store.get id : Except StorageError Product) with
    | error e =>
      rw [perform_ask_of_error (c := .getProduct id) s hGet]
      exact .refused _
    | ok old =>
      let new : Product := { old with name := body.name, description := body.description,
                                      schema := body.schema, updatedAt := now }
      rw [perform_ask_getProduct s hGet, Ran.andThen_ok, perform_bind]
      rcases Store.update_cases s.store new with ⟨-, hOk, hTables⟩ | ⟨e, hError, hTables⟩
      · rw [perform_ask_of_ok (c := .updateProduct new) s hOk]
        exact (Effect.updateProduct hRead (Store.get_eq_ok_iff.mp hGet) rfl).congr rfl hTables
      · rw [perform_ask_of_error (c := .updateProduct new) s hError]
        exact (Effect.refused _).congr rfl hTables

theorem meets_deleteProduct (id : String) : s.Meets policy (.deleteProduct id) := by
  unfold Meets serve Request.operation deleteProduct
  rw [perform_map, perform_bind]
  rcases Store.delete_cases Product s.store id with ⟨hKnown, hOk, hTables⟩ | ⟨e, hError, hTables⟩
  · rw [perform_ask_of_ok (c := .deleteProduct id) s hOk]
    exact (Effect.deleteProduct hKnown).congr rfl hTables
  · rw [perform_ask_of_error (c := .deleteProduct id) s hError]
    exact (Effect.refused _).congr rfl hTables

theorem judged_of_ok {rules : Rules} (gate : Gate) {definition data : Value}
    (h : (Schema.ofStored definition).1.validate rules data = .ok ()) :
    ∃ log, s.judged rules gate definition data =
      ⟨.ok (), { s with counters := s.counters.bump .validationsPassed }, log⟩ := by
  unfold judged
  generalize Schema.ofStored definition = stored at h ⊢
  obtain ⟨schema, notices⟩ := stored
  dsimp only at h ⊢
  rw [h]
  exact ⟨_, rfl⟩

theorem judged_of_error {rules : Rules} (gate : Gate) {definition data : Value} {f : Failure}
    (h : (Schema.ofStored definition).1.validate rules data = .error f) :
    ∃ log, s.judged rules gate definition data = ⟨.error (.invalidData f),
      { s with counters := s.counters.bump .validationsFailed }, log⟩ := by
  unfold judged
  generalize Schema.ofStored definition = stored at h ⊢
  obtain ⟨schema, notices⟩ := stored
  dsimp only at h ⊢
  rw [h]
  exact ⟨_, rfl⟩

end Meeting

section Checking

variable {rules : Rules} {productId : String} {data : Value}

theorem perform_checkData_of_passes [Pattern.Engine] {product : Product} (gate : Gate)
    (found : s.store.tables.products.find? productId = some product)
    (passes : product.Passes rules data) :
    ∃ log, s.perform (checkData rules gate productId data) =
      ⟨.ok (), { s with counters := s.counters.bump .validationsPassed }, log⟩ := by
  have hGet : s.store.get productId = .ok product := Store.get_eq_ok_iff.mpr found
  obtain ⟨log, hJudged⟩ := judged_of_ok s gate passes
  rw [perform_checkData, getProduct, perform_ask_getProduct s hGet, Ran.andThen_ok, hJudged]
  exact ⟨_, rfl⟩

variable (rules productId data) in
/-- What a check of data comes to, and the counter that tells of it; no table is changed. -/
theorem perform_checkData_cases [Pattern.Engine] (gate : Gate) :
    (∃ product log, s.store.tables.products.find? productId = some product ∧
      product.Passes rules data ∧
      s.perform (checkData rules gate productId data) =
        ⟨.ok (), { s with counters := s.counters.bump .validationsPassed }, log⟩) ∨
    (∃ f log, s.perform (checkData rules gate productId data) =
      ⟨.error (.invalidData f), { s with counters := s.counters.bump .validationsFailed },
        log⟩) ∨
    ∃ log, s.perform (checkData rules gate productId data) =
      ⟨.error (.notFound .product productId), s, log⟩ := by
  cases hGet : (s.store.get productId : Except StorageError Product) with
  | error e =>
    obtain rfl := Store.get_of_error hGet
    rw [perform_checkData, getProduct, perform_ask_of_error (c := .getProduct productId) s hGet]
    exact .inr (.inr ⟨_, rfl⟩)
  | ok product =>
    have hFound := Store.get_eq_ok_iff.mp hGet
    cases hPasses : (Schema.ofStored product.schema).1.validate rules data with
    | ok =>
      obtain ⟨log, hRun⟩ := perform_checkData_of_passes s gate hFound hPasses
      exact .inl ⟨product, log, hFound, hPasses, hRun⟩
    | error f =>
      obtain ⟨log, hJudged⟩ := judged_of_error s gate hPasses
      rw [perform_checkData, getProduct, perform_ask_getProduct s hGet, Ran.andThen_ok, hJudged]
      exact .inr (.inl ⟨f, _, rfl⟩)

end Checking

variable [Pattern.Engine]

theorem meets_createLead (id : String) (now : Instant) (body : LeadRequest) :
    s.Meets policy (.createLead id now body) := by
  unfold Meets serve Request.operation createLead
  rw [perform_map, perform_bind]
  rcases perform_checkData_cases s policy.rules body.productId body.data .write with
    ⟨product, log, hFound, hPasses, hRun⟩ | ⟨f, log, hRun⟩ | ⟨log, hRun⟩
  · let lead : Lead := ⟨id, body.productId, body.data, now, now⟩
    let checked : Service := { s with counters := s.counters.bump .validationsPassed }
    rw [hRun, Ran.andThen_ok, perform_bind]
    rcases Store.insert_cases s.store lead with ⟨leads, hInsert, hOk, hTables⟩ |
      ⟨e, hError, hTables⟩
    · rw [perform_ask_of_ok (c := .insertLead lead) checked hOk]
      exact (Effect.createLead hFound hPasses hInsert).congr rfl hTables
    · rw [perform_ask_of_error (c := .insertLead lead) checked hError]
      exact (Effect.refused _).congr rfl hTables
  · rw [hRun]
    exact .refused _
  · rw [hRun]
    exact .refused _

theorem meets_updateLead (id : String) (now : Instant) (body : DataRequest) :
    s.Meets policy (.updateLead id now body) := by
  unfold Meets serve Request.operation updateLead
  rw [perform_map, perform_bind]
  cases hGet : (s.store.get id : Except StorageError Lead) with
  | error e =>
    rw [perform_ask_of_error (c := .getLead id) s hGet]
    exact .refused _
  | ok old =>
    rw [perform_ask_getLead s hGet, Ran.andThen_ok, perform_bind]
    rcases perform_checkData_cases s policy.rules old.productId body.data .write with
      ⟨product, log, hFound, hPasses, hRun⟩ | ⟨f, log, hRun⟩ | ⟨log, hRun⟩
    · let new : Lead := { old with data := body.data, updatedAt := now }
      let checked : Service := { s with counters := s.counters.bump .validationsPassed }
      rw [hRun, Ran.andThen_ok, perform_bind]
      rcases Store.update_cases s.store new with ⟨-, hOk, hTables⟩ | ⟨e, hError, hTables⟩
      · rw [perform_ask_of_ok (c := .updateLead new) checked hOk]
        exact (Effect.updateLead (Store.get_eq_ok_iff.mp hGet) hFound hPasses rfl).congr rfl
          hTables
      · rw [perform_ask_of_error (c := .updateLead new) checked hError]
        exact (Effect.refused _).congr rfl hTables
    · rw [hRun]
      exact .refused _
    · rw [hRun]
      exact .refused _

theorem meets_deleteLead (id : String) : s.Meets policy (.deleteLead id) := by
  unfold Meets serve Request.operation deleteLead
  rw [perform_map, perform_bind]
  rcases Store.delete_cases Lead s.store id with ⟨hKnown, hOk, hTables⟩ | ⟨e, hError, hTables⟩
  · rw [perform_ask_of_ok (c := .deleteLead id) s hOk]
    exact (Effect.deleteLead hKnown).congr rfl hTables
  · rw [perform_ask_of_error (c := .deleteLead id) s hError]
    exact (Effect.refused _).congr rfl hTables

theorem meets_getProduct (id : String) : s.Meets policy (.getProduct id) := by
  unfold Meets serve Request.operation getProduct
  rw [perform_map]
  cases hGet : (s.store.get id : Except StorageError Product) with
  | error e =>
    rw [perform_ask_of_error (c := .getProduct id) s hGet]
    exact .refused _
  | ok product =>
    rw [perform_ask_getProduct s hGet]
    exact .read _ rfl

theorem meets_getLead (id : String) : s.Meets policy (.getLead id) := by
  unfold Meets serve Request.operation getLead
  rw [perform_map]
  cases hGet : (s.store.get id : Except StorageError Lead) with
  | error e =>
    rw [perform_ask_of_error (c := .getLead id) s hGet]
    exact .refused _
  | ok lead =>
    rw [perform_ask_getLead s hGet]
    exact .read _ rfl

theorem meets_validateData (productId : String) (body : DataRequest) :
    s.Meets policy (.validateData productId body) := by
  unfold Meets serve Request.operation validateData
  rw [perform_map]
  rcases perform_checkData_cases s policy.rules productId body.data .dryRun with
    ⟨product, log, -, -, hRun⟩ | ⟨f, log, hRun⟩ | ⟨log, hRun⟩
  · rw [hRun]
    exact .read _ rfl
  · rw [hRun]
    exact .refused _
  · rw [hRun]
    exact .refused _

theorem meets_checkSchema (body : SchemaRequest) : s.Meets policy (.checkSchema body) := by
  unfold Meets serve Request.operation checkSchema
  rw [perform_map, perform_bind, perform_checkDefinition]
  cases Schema.ofDefinition body.schema with
  | error e => exact .refused _
  | ok schema => exact .read _ rfl

theorem serve_effect (r : Request) :
    Effect policy s.store.tables r (s.serve policy r).result
      (s.serve policy r).service.store.tables := by
  cases r with
  | createProduct id now body => exact meets_createProduct policy s id now body
  | getProduct id => exact meets_getProduct policy s id
  | updateProduct id now body => exact meets_updateProduct policy s id now body
  | deleteProduct id => exact meets_deleteProduct policy s id
  | listProducts query => exact .read _ rfl
  | createLead id now body => exact meets_createLead policy s id now body
  | getLead id => exact meets_getLead policy s id
  | updateLead id now body => exact meets_updateLead policy s id now body
  | deleteLead id => exact meets_deleteLead policy s id
  | listLeads query => exact .read _ rfl
  | validateData productId body => exact meets_validateData policy s productId body
  | checkSchema body => exact meets_checkSchema policy s body

end Service

theorem Effect.of_serve [Pattern.Engine] {policy : Policy} {s : Service} {r : Request} {a : Answer}
    (h : (s.serve policy r).result = .ok a) :
    Effect policy s.store.tables r (.ok a) (s.serve policy r).service.store.tables :=
  h ▸ Service.serve_effect policy s r

end Intake
