import Intake.Proofs.FailedRequests

/-! # What is counted and what is logged

How a request ends settles which counters it raises and which events it logs. Summed up over a run,
the counters, the log and the tables agree with each other.
-/

namespace Intake

/-- The event of a line of the log. What is left out of a definition is told without one. -/
def Notice.event? : Notice → Option Event
  | done event => some event
  | rejected event _ => some event
  | failed event _ => some event
  | definition _ => none

/-- The counter of the work that an event tells of. -/
def Event.counter? : Event → Option Counter
  | productCreated => some .productsCreated
  | productUpdated => some .productsUpdated
  | productDeleted => some .productsDeleted
  | leadCreated => some .leadsCreated
  | leadUpdated => some .leadsUpdated
  | leadDeleted => some .leadsDeleted
  | _ => none

namespace Request

def newLead? : Request → Option String
  | createLead id _ _ => some id
  | _ => none

/-- Whether a request writes what it checks, if it checks anything. -/
def gate : Request → Gate
  | validateData _ _ | checkSchema _ => .dryRun
  | _ => .write

def isDataTrial : Request → Bool
  | validateData _ _ => true
  | _ => false

/-- The counters that a request raises if it is granted. -/
def work : Request → List Counter
  | createProduct _ _ _ => [.productsCreated]
  | updateProduct _ _ _ => [.productsUpdated]
  | deleteProduct _ => [.productsDeleted]
  | createLead _ _ _ => [.validationsPassed, .leadsCreated]
  | updateLead _ _ _ => [.validationsPassed, .leadsUpdated]
  | deleteLead _ => [.leadsDeleted]
  | validateData _ _ => [.validationsPassed]
  | checkSchema _ | getProduct _ | listProducts _ | getLead _ | listLeads _ => []

/-- The events that a request logs if it is granted. -/
def news : Request → List Event
  | createProduct _ _ _ => [.productCreated]
  | updateProduct _ _ _ => [.productUpdated]
  | deleteProduct _ => [.productDeleted]
  | createLead _ _ _ => [.leadCreated]
  | updateLead _ _ _ => [.leadUpdated]
  | deleteLead _ => [.leadDeleted]
  | validateData _ _ | checkSchema _ => [.validationPassed]
  | getProduct _ | listProducts _ | getLead _ | listLeads _ => []

/-- The counters that a request raises, by how it ends. A lead whose id is taken has passed the
check of its data. -/
def raised (r : Request) : Except ServiceError Answer → List Counter
  | .ok _ => r.work
  | .error (.invalidSchema _) => [.schemasRejected]
  | .error (.invalidData _) => [.validationsFailed]
  | .error (.notFound _ _) => []
  | .error (.storage _) => if r.newLead?.isSome then [.validationsPassed] else []

/-- The events that a request logs, by how it ends. -/
def told (r : Request) : Except ServiceError Answer → List Event
  | .ok _ => r.news
  | .error (.invalidSchema _) => [r.gate.schemaRejected]
  | .error (.invalidData _) => [r.gate.dataRejected]
  | .error (.notFound _ _) => []
  | .error (.storage _) => [.storageFailure]

end Request

/-- What a run adds to the counters of a service and the events that it logs. -/
structure Ran.Adds {α : Type} (ran : Ran α) (s : Service) (raised : List Counter)
    (told : List Event) : Prop where
  counters : ran.service.counters = raised.foldl Counters.bump s.counters
  events : ran.log.filterMap Notice.event? = told

namespace Service

open Operation

theorem events_behind {log : List Notice} (silent : log.filterMap Notice.event? = [])
    (later : List Notice) :
    (log ++ later).filterMap Notice.event? = later.filterMap Notice.event? := by
  rw [List.filterMap_append, silent, List.nil_append]

variable [Pattern.Engine] (policy : Policy) (s : Service)

/-- A request adds what its end says. -/
def Accounts (r : Request) : Prop :=
  let ran := s.serve policy r
  ran.Adds s (r.raised ran.result) (r.told ran.result)

/-- The events of a check of data, by what it comes to. -/
def checkEvents (gate : Gate) : Except ServiceError Unit → List Event
  | .ok _ => if gate = .dryRun then [.validationPassed] else []
  | .error (.invalidData _) => [gate.dataRejected]
  | .error _ => []

theorem events_judged (rules : Rules) (gate : Gate) (definition data : Value) :
    (s.judged rules gate definition data).log.filterMap Notice.event? =
      checkEvents gate (s.judged rules gate definition data).result := by
  have hNotices (notices : List DefinitionNotice) :
      (notices.map Notice.definition).filterMap Notice.event? = [] := by
    simp [List.filterMap_map, Function.comp_def, Notice.event?]
  rw [judged]
  cases Schema.ofStored definition with
  | mk schema notices =>
    cases hJudged : schema.validate rules data with
    | ok =>
      cases gate <;> simp [hJudged, hNotices, checkEvents, Notice.event?]
    | error f => simp [hJudged, hNotices, checkEvents, Notice.event?]

theorem events_checkData (rules : Rules) (gate : Gate) (productId : String) (data : Value) :
    (s.perform (checkData rules gate productId data)).log.filterMap Notice.event? =
      checkEvents gate (s.perform (checkData rules gate productId data)).result := by
  rw [perform_checkData, getProduct]
  cases hGet : (s.store.get productId : Except StorageError Product) with
  | error e =>
    obtain rfl := Store.get_of_error hGet
    rw [perform_ask_of_error (c := .getProduct productId) s hGet]
    rfl
  | ok product =>
    rw [perform_ask_getProduct s hGet, Ran.andThen_ok, List.nil_append]
    exact events_judged s rules gate product.schema data

theorem accounts_checkSchema (body : SchemaRequest) : s.Accounts policy (.checkSchema body) := by
  rw [Accounts, serve, Request.operation, checkSchema, perform_map, perform_bind,
    perform_checkDefinition]
  cases Schema.ofDefinition body.schema with
  | error e => exact ⟨rfl, rfl⟩
  | ok schema => exact ⟨rfl, rfl⟩

theorem accounts_validateData (productId : String) (body : DataRequest) :
    s.Accounts policy (.validateData productId body) := by
  have hEvents := s.events_checkData policy.rules .dryRun productId body.data
  rw [Accounts, serve, Request.operation, validateData, perform_map]
  rcases perform_checkData_cases s policy.rules productId body.data .dryRun with
    ⟨product, log, -, -, hRun⟩ | ⟨f, log, hRun⟩ | ⟨log, hRun⟩
  all_goals
    rw [hRun] at hEvents ⊢
    exact ⟨rfl, hEvents⟩

theorem accounts_getProduct (id : String) : s.Accounts policy (.getProduct id) := by
  rw [Accounts, serve, Request.operation, getProduct, perform_map]
  cases hGet : (s.store.get id : Except StorageError Product) with
  | error e =>
    obtain rfl := Store.get_of_error hGet
    rw [perform_ask_of_error (c := .getProduct id) s hGet]
    exact ⟨rfl, rfl⟩
  | ok product =>
    rw [perform_ask_getProduct s hGet]
    exact ⟨rfl, rfl⟩

theorem accounts_getLead (id : String) : s.Accounts policy (.getLead id) := by
  rw [Accounts, serve, Request.operation, getLead, perform_map]
  cases hGet : (s.store.get id : Except StorageError Lead) with
  | error e =>
    obtain rfl := Store.get_of_error hGet
    rw [perform_ask_of_error (c := .getLead id) s hGet]
    exact ⟨rfl, rfl⟩
  | ok lead =>
    rw [perform_ask_getLead s hGet]
    exact ⟨rfl, rfl⟩

section Memory

variable (memory : s.store.backing? = none)
include memory

theorem accounts_createProduct (id : String) (now : Instant) (body : ProductRequest) :
    s.Accounts policy (.createProduct id now body) := by
  rw [Accounts, serve, Request.operation, createProduct, perform_map, perform_bind,
    perform_checkDefinition]
  cases Schema.ofDefinition body.schema with
  | error e => exact ⟨rfl, rfl⟩
  | ok schema =>
    let product : Product := ⟨id, body.name, body.description, body.schema, now, now⟩
    rw [Ran.andThen_ok, perform_bind]
    cases hInsert : (s.store.insert product).1 with
    | ok =>
      rw [perform_ask_of_ok (c := .insertProduct product) s hInsert]
      exact ⟨rfl, rfl⟩
    | error e =>
      obtain ⟨-, rfl, -⟩ := Store.insert_of_error memory hInsert
      rw [perform_ask_of_error (c := .insertProduct product) s hInsert]
      exact ⟨rfl, rfl⟩

theorem accounts_updateProduct (id : String) (now : Instant) (body : ProductRequest) :
    s.Accounts policy (.updateProduct id now body) := by
  rw [Accounts, serve, Request.operation, updateProduct, perform_map, perform_bind,
    perform_checkDefinition]
  cases Schema.ofDefinition body.schema with
  | error e => exact ⟨rfl, rfl⟩
  | ok schema =>
    rw [Ran.andThen_ok, perform_bind]
    cases hGet : (s.store.get id : Except StorageError Product) with
    | error e =>
      obtain rfl := Store.get_of_error hGet
      rw [perform_ask_of_error (c := .getProduct id) s hGet]
      exact ⟨rfl, rfl⟩
    | ok old =>
      let new : Product := { old with name := body.name, description := body.description,
                                      schema := body.schema, updatedAt := now }
      rw [perform_ask_getProduct s hGet, Ran.andThen_ok, perform_bind]
      cases hUpdate : (s.store.update new).1 with
      | ok =>
        rw [perform_ask_of_ok (c := .updateProduct new) s hUpdate]
        exact ⟨rfl, rfl⟩
      | error e =>
        obtain ⟨-, rfl, -⟩ := Store.update_of_error memory hUpdate
        rw [perform_ask_of_error (c := .updateProduct new) s hUpdate]
        exact ⟨rfl, rfl⟩

theorem accounts_deleteProduct (id : String) : s.Accounts policy (.deleteProduct id) := by
  rw [Accounts, serve, Request.operation, deleteProduct, perform_map, perform_bind]
  cases hDelete : (s.store.delete Product id).1 with
  | ok =>
    rw [perform_ask_of_ok (c := .deleteProduct id) s hDelete]
    exact ⟨rfl, rfl⟩
  | error e =>
    obtain ⟨rfl, -⟩ := Store.delete_of_error memory hDelete
    rw [perform_ask_of_error (c := .deleteProduct id) s hDelete]
    exact ⟨rfl, rfl⟩

theorem accounts_deleteLead (id : String) : s.Accounts policy (.deleteLead id) := by
  rw [Accounts, serve, Request.operation, deleteLead, perform_map, perform_bind]
  cases hDelete : (s.store.delete Lead id).1 with
  | ok =>
    rw [perform_ask_of_ok (c := .deleteLead id) s hDelete]
    exact ⟨rfl, rfl⟩
  | error e =>
    obtain ⟨rfl, -⟩ := Store.delete_of_error memory hDelete
    rw [perform_ask_of_error (c := .deleteLead id) s hDelete]
    exact ⟨rfl, rfl⟩

theorem accounts_createLead (id : String) (now : Instant) (body : LeadRequest) :
    s.Accounts policy (.createLead id now body) := by
  have hEvents := s.events_checkData policy.rules .write body.productId body.data
  rw [Accounts, serve, Request.operation, createLead, perform_map, perform_bind]
  rcases perform_checkData_cases s policy.rules body.productId body.data .write with
    ⟨product, log, -, -, hRun⟩ | ⟨f, log, hRun⟩ | ⟨log, hRun⟩
  · let lead : Lead := ⟨id, body.productId, body.data, now, now⟩
    let checked : Service := { s with counters := s.counters.bump .validationsPassed }
    rw [hRun] at hEvents ⊢
    rw [Ran.andThen_ok, perform_bind]
    cases hInsert : (s.store.insert lead).1 with
    | ok =>
      rw [perform_ask_of_ok (c := .insertLead lead) checked hInsert]
      exact ⟨rfl, events_behind hEvents _⟩
    | error e =>
      obtain ⟨-, rfl, -⟩ := Store.insert_of_error memory hInsert
      rw [perform_ask_of_error (c := .insertLead lead) checked hInsert]
      exact ⟨rfl, events_behind hEvents _⟩
  · rw [hRun] at hEvents ⊢
    exact ⟨rfl, hEvents⟩
  · rw [hRun] at hEvents ⊢
    exact ⟨rfl, hEvents⟩

theorem accounts_updateLead (id : String) (now : Instant) (body : DataRequest) :
    s.Accounts policy (.updateLead id now body) := by
  rw [Accounts, serve, Request.operation, updateLead, perform_map, perform_bind]
  cases hGet : (s.store.get id : Except StorageError Lead) with
  | error e =>
    obtain rfl := Store.get_of_error hGet
    rw [perform_ask_of_error (c := .getLead id) s hGet]
    exact ⟨rfl, rfl⟩
  | ok old =>
    have hEvents := s.events_checkData policy.rules .write old.productId body.data
    rw [perform_ask_getLead s hGet, Ran.andThen_ok, perform_bind]
    rcases perform_checkData_cases s policy.rules old.productId body.data .write with
      ⟨product, log, -, -, hRun⟩ | ⟨f, log, hRun⟩ | ⟨log, hRun⟩
    · let new : Lead := { old with data := body.data, updatedAt := now }
      let checked : Service := { s with counters := s.counters.bump .validationsPassed }
      -- The check leaves the tables alone, so the lead that was found is there to be changed.
      have hId : id = new.id := (Table.id_of_find? (Store.get_eq_ok_iff.mp hGet)).symm
      have hUpdate : (s.store.update new).1 = .ok () := Store.update_of_get memory (hId ▸ hGet)
      rw [hRun] at hEvents ⊢
      rw [Ran.andThen_ok, perform_bind, perform_ask_of_ok (c := .updateLead new) checked hUpdate]
      exact ⟨rfl, events_behind hEvents _⟩
    · rw [hRun] at hEvents ⊢
      exact ⟨rfl, hEvents⟩
    · rw [hRun] at hEvents ⊢
      exact ⟨rfl, hEvents⟩

theorem serve_accounts (r : Request) : s.Accounts policy r := by
  cases r with
  | createProduct id now body => exact accounts_createProduct policy s memory id now body
  | getProduct id => exact accounts_getProduct policy s id
  | updateProduct id now body => exact accounts_updateProduct policy s memory id now body
  | deleteProduct id => exact accounts_deleteProduct policy s memory id
  | listProducts query => exact ⟨rfl, rfl⟩
  | createLead id now body => exact accounts_createLead policy s memory id now body
  | getLead id => exact accounts_getLead policy s id
  | updateLead id now body => exact accounts_updateLead policy s memory id now body
  | deleteLead id => exact accounts_deleteLead policy s memory id
  | listLeads query => exact ⟨rfl, rfl⟩
  | validateData productId body => exact accounts_validateData policy s productId body
  | checkSchema body => exact accounts_checkSchema policy s body

end Memory

end Service

namespace Store

/-- A store without a backing never gets one. -/
theorem memory_perform {β : Type} (c : StoreCall β) {s : Store} (memory : s.backing? = none) :
    (perform c s).2.backing? = none := by
  have hInsert {α : Type} [Stored α] (r : α) : (s.insert r).2.backing? = none := by
    rw [insert]
    cases (Stored.table s.tables).insert? r with
    | none => exact memory
    | some t =>
      dsimp only
      rw [save_of_memory memory]
      exact memory
  have hUpdate {α : Type} [Stored α] (r : α) : (s.update r).2.backing? = none := by
    rw [update]
    split
    · rw [save_of_memory memory]
      exact memory
    · exact memory
  have hDelete (α : Type) [Stored α] (id : String) : (s.delete α id).2.backing? = none := by
    rw [delete]
    split
    · rw [memory]
      exact memory
    · exact memory
  cases c with
  | insertProduct p => exact hInsert p
  | updateProduct p => exact hUpdate p
  | deleteProduct id => exact hDelete Product id
  | insertLead l => exact hInsert l
  | updateLead l => exact hUpdate l
  | deleteLead id => exact hDelete Lead id
  | _ => exact memory

end Store

theorem Task.memory_run {α : Type} (t : Task α) {s : Service} (memory : s.store.backing? = none) :
    (t.run s).service.store.backing? = none := by
  induction t generalizing s with
  | done a => exact memory
  | call c next ih =>
    rw [run]
    exact ih _ (Store.memory_perform c memory)
  | note n next ih => exact ih memory
  | count c next ih => exact ih memory
  | read next ih => exact ih _ memory

namespace Counters

theorem value_bump (c : Counters) (counter other : Counter) :
    (c.bump other).value counter =
      if counter = other then c.value counter + 1 else c.value counter := rfl

theorem value_foldl_bump (raised : List Counter) (c : Counters) (counter : Counter) :
    (raised.foldl bump c).value counter =
      c.value counter + UInt64.ofNat (raised.count counter) := by
  induction raised generalizing c with
  | nil => simp
  | cons other rest ih =>
    rw [List.foldl_cons, ih, List.count_cons, value_bump]
    by_cases hSame : counter = other
    · rw [if_pos hSame, if_pos (by simp [hSame]), UInt64.ofNat_add, UInt64.add_assoc,
        UInt64.add_comm (UInt64.ofNat _)]
      rfl
    · rw [if_neg hSame, if_neg (by simpa using Ne.symm hSame), Nat.add_zero]

end Counters

namespace Request

variable {counter : Counter} {event : Event} (r : Request) (result : Except ServiceError Answer)

theorem count_raised_le (counter : Counter) : (r.raised result).count counter ≤ 1 := by
  apply List.nodup_iff_count_le_one.mp
  cases result with
  | ok a => cases r <;> simp [raised, work]
  | error e => cases e <;> cases r <;> simp [raised, newLead?]

/-- Work is counted as often as it is told. -/
theorem count_raised (h : event.counter? = some counter) :
    (r.raised result).count counter = (r.told result).count event := by
  cases event with
  | productCreated | productUpdated | productDeleted | leadCreated | leadUpdated | leadDeleted =>
    cases h
    cases result with
    | ok a => cases r <;> rfl
    | error e => cases e <;> cases r <;> rfl
  | _ => cases h

/-- A request in a list of those that were granted. -/
def ifGranted : List Request :=
  match result with
  | .ok _ => [r]
  | .error _ => []

theorem count_passed (untaken : ∀ e, result = .error (.storage e) → r.newLead? = none) :
    (r.raised result).count .validationsPassed =
      (r.raised result).count .leadsCreated + (r.raised result).count .leadsUpdated +
        (r.ifGranted result).countP isDataTrial := by
  cases result with
  | ok a => cases r <;> rfl
  | error e =>
    cases e with
    | storage e =>
      have hOther := untaken e rfl
      cases r <;> first | rfl | cases hOther
    | _ => rfl

theorem count_refused :
    (r.raised result).count .validationsFailed + (r.raised result).count .schemasRejected =
      (r.told result).count .leadRejected + (r.told result).count .schemaRejected +
        (r.told result).count .validationFailed := by
  cases result with
  | ok a => cases r <;> rfl
  | error e => cases e <;> cases r <;> rfl

theorem count_trials :
    (r.told result).count .validationPassed =
      (r.ifGranted result).countP fun r => r.gate = .dryRun := by
  cases result with
  | ok a => cases r <;> rfl
  | error e => cases e <;> cases r <;> rfl

end Request

namespace Table

variable {α : Type} [Record α] {t : Table α}

theorem length_remove {id : String} (known : t.contains id = true) :
    (t.remove id).rows.length + 1 = t.rows.length := by
  have hOne : (t.rows.map Record.id).count id = 1 :=
    List.count_eq_one_of_mem t.distinct (by simpa [contains] using known)
  have hFound : t.rows.countP (fun r => decide (Record.id r = id)) = 1 := by
    rw [List.count_eq_countP, List.countP_map] at hOne
    exact hOne
  have hSplit := List.length_eq_countP_add_countP (l := t.rows) fun r => decide (Record.id r = id)
  rw [hFound] at hSplit
  rw [hSplit, Nat.add_comm, remove, ← List.countP_eq_length_filter]
  simp

end Table

namespace Effect

variable [Pattern.Engine] {policy : Policy} {t u : Tables} {r : Request}
  {result : Except ServiceError Answer}

-- With the deleted on the left, so that no subtraction is needed.
theorem length_products (h : Effect policy t r result u) :
    u.products.rows.length + (r.raised result).count .productsDeleted =
      t.products.rows.length + (r.raised result).count .productsCreated := by
  cases h with
  | refused e => cases e <;> cases r <;> rfl
  | read a look => cases r <;> first | rfl | cases look
  | createProduct accepted inserted =>
    obtain ⟨-, hRows⟩ := Table.insert?_eq_some_iff.mp inserted
    exact (congrArg List.length hRows).trans List.length_append
  | updateProduct accepted found new_eq => exact List.length_map _
  | deleteProduct known => exact Table.length_remove known
  | createLead | updateLead | deleteLead => rfl

theorem length_leads (h : Effect policy t r result u) :
    u.leads.rows.length + (r.raised result).count .leadsDeleted =
      t.leads.rows.length + (r.raised result).count .leadsCreated := by
  cases h with
  | refused e => cases e <;> cases r <;> rfl
  | read a look => cases r <;> first | rfl | cases look
  | createLead found passes inserted =>
    obtain ⟨-, hRows⟩ := Table.insert?_eq_some_iff.mp inserted
    exact (congrArg List.length hRows).trans List.length_append
  | updateLead found product_found passes new_eq => exact List.length_map _
  | deleteLead known => exact Table.length_remove known
  | createProduct | updateProduct | deleteProduct => rfl

/-- Only a request that creates a lead takes an id. -/
theorem contains_lead (h : Effect policy t r result u) {id : String}
    (other : r.newLead? ≠ some id) (untaken : t.leads.contains id = false) :
    u.leads.contains id = false := by
  rw [← Table.find?_eq_none_iff] at untaken ⊢
  cases h with
  | refused | read | createProduct | updateProduct | deleteProduct => exact untaken
  | @createLead newId _ _ _ _ _ _ inserted =>
    have hId : id ≠ newId := fun hEq => other (congrArg some hEq.symm)
    rwa [Table.find?_of_insert?_of_ne inserted hId]
  | updateLead => rw [Table.find?_replace, untaken, Option.map_none]
  | @deleteLead oldId =>
    by_cases hId : id = oldId
    · rw [hId, Table.find?_remove_self]
    · rwa [Table.find?_remove_of_ne hId]

end Effect

theorem Failed.taken_of_storage {t : Tables} {c c' : Counters} {r : Request} {e : StorageError}
    (h : Failed t c r (.storage e) c') :
    r.newLead? = none ∨ ∃ id, r.newLead? = some id ∧ t.leads.contains id = true := by
  cases h with
  | takenProduct => exact .inl rfl
  | takenLead taken => exact .inr ⟨_, rfl, taken⟩

/-- The counters that were raised, the events that were logged and the requests that were granted
agree with each other and with the tables. -/
structure Balanced (t : Tables) (raised : List Counter) (told : List Event)
    (granted : List Request) : Prop where
  products : raised.count .productsCreated =
    raised.count .productsDeleted + t.products.rows.length
  leads : raised.count .leadsCreated = raised.count .leadsDeleted + t.leads.rows.length
  work {event : Event} {counter : Counter} :
    event.counter? = some counter → raised.count counter = told.count event
  passed : raised.count .validationsPassed = raised.count .leadsCreated +
    raised.count .leadsUpdated + granted.countP Request.isDataTrial
  refused : raised.count .validationsFailed + raised.count .schemasRejected =
    told.count .leadRejected + told.count .schemaRejected + told.count .validationFailed
  trials : told.count .validationPassed = granted.countP fun r => r.gate = .dryRun

theorem Balanced.step [Pattern.Engine] {policy : Policy} {t u : Tables} {raised : List Counter}
    {told : List Event} {granted : List Request} {r : Request} {result : Except ServiceError Answer}
    (h : Balanced t raised told granted) (effect : Effect policy t r result u)
    (untaken : ∀ e, result = .error (.storage e) → r.newLead? = none) :
    Balanced u (raised ++ r.raised result) (told ++ r.told result)
      (granted ++ r.ifGranted result) := by
  have hProducts := effect.length_products
  have hLeads := effect.length_leads
  have hPassed := r.count_passed result untaken
  have hRefused := r.count_refused result
  have hTrials := r.count_trials result
  obtain ⟨products, leads, work, passed, refused, trials⟩ := h
  constructor
  · rw [List.count_append, List.count_append]
    omega
  · rw [List.count_append, List.count_append]
    omega
  · intro event counter hWork
    rw [List.count_append, List.count_append, work hWork, r.count_raised result hWork]
  · simp only [List.count_append, List.countP_append]
    omega
  · simp only [List.count_append]
    omega
  · rw [List.count_append, List.countP_append, trials, hTrials]

namespace Service

variable {policy : Policy} {s : Service}

/-- The ids of new leads are neither taken nor used twice. -/
structure Fresh (s : Service) (requests : List Request) : Prop where
  distinct : (requests.filterMap Request.newLead?).Nodup
  untaken : ∀ id ∈ requests.filterMap Request.newLead?,
    s.store.tables.leads.contains id = false

section Runs

variable [Pattern.Engine]

theorem Fresh.step {r : Request} {rest : List Request} (h : s.Fresh (r :: rest)) :
    (s.serve policy r).service.Fresh rest := by
  obtain ⟨hDistinct, hUntaken⟩ := h
  have hLater (id : String) (hMem : id ∈ rest.filterMap Request.newLead?) :
      id ∈ (r :: rest).filterMap Request.newLead? := by
    rw [← List.singleton_append, List.filterMap_append]
    exact List.mem_append_right _ hMem
  constructor
  · cases hNew : r.newLead? with
    | none => rwa [List.filterMap_cons_none hNew] at hDistinct
    | some id =>
      rw [List.filterMap_cons_some hNew] at hDistinct
      exact (List.nodup_cons.mp hDistinct).2
  · intro id hMem
    refine (serve_effect policy s r).contains_lead (fun hNew => ?_) (hUntaken id (hLater id hMem))
    rw [List.filterMap_cons_some hNew] at hDistinct
    exact (List.nodup_cons.mp hDistinct).1 hMem

theorem Fresh.newLead?_of_storage {r : Request} {rest : List Request} (h : s.Fresh (r :: rest))
    (memory : s.store.backing? = none) (e : StorageError)
    (failed : (s.serve policy r).result = .error (.storage e)) : r.newLead? = none := by
  obtain ⟨-, hFailed⟩ := fails_operation policy memory r _ failed
  rcases hFailed.taken_of_storage with hNone | ⟨id, hNew, hTaken⟩
  · exact hNone
  · have hUntaken := h.untaken id (by simp [hNew])
    rw [hTaken] at hUntaken
    cases hUntaken

/-- The counters that a service raises, one request after the other. -/
def raised (policy : Policy) (s : Service) (requests : List Request) : List Counter :=
  (s.steps policy requests).flatMap fun (s, r) => r.raised (s.serve policy r).result

/-- The events that a service logs. -/
def events (policy : Policy) (s : Service) (requests : List Request) : List Event :=
  (s.steps policy requests).flatMap fun (s, r) => (s.serve policy r).log.filterMap Notice.event?

theorem raised_cons (r : Request) (rest : List Request) :
    s.raised policy (r :: rest) =
      r.raised (s.serve policy r).result ++ (s.serve policy r).service.raised policy rest := rfl

theorem events_cons (r : Request) (rest : List Request) :
    s.events policy (r :: rest) =
      (s.serve policy r).log.filterMap Notice.event? ++
        (s.serve policy r).service.events policy rest := rfl

theorem granted_cons (r : Request) (rest : List Request) :
    s.granted policy (r :: rest) =
      r.ifGranted (s.serve policy r).result ++ (s.serve policy r).service.granted policy rest := by
  rw [granted]
  cases (s.serve policy r).result <;> rfl

theorem count_raised_le (requests : List Request) (counter : Counter) :
    (s.raised policy requests).count counter ≤ requests.length := by
  induction requests generalizing s with
  | nil => exact Nat.le_refl 0
  | cons r rest ih =>
    have hHere := r.count_raised_le (s.serve policy r).result counter
    have hLater : ((s.serve policy r).service.raised policy rest).count counter ≤ rest.length := ih
    rw [raised_cons, List.count_append, List.length_cons]
    omega

theorem counters_after (memory : s.store.backing? = none) (requests : List Request) :
    (s.after policy requests).counters =
      (s.raised policy requests).foldl Counters.bump s.counters := by
  induction requests generalizing s with
  | nil => rfl
  | cons r rest ih =>
    have hAfter : s.after policy (r :: rest) = (s.serve policy r).service.after policy rest := rfl
    have hMemory : (s.serve policy r).service.store.backing? = none := Task.memory_run _ memory
    rw [hAfter, ih hMemory, (serve_accounts policy s memory r).counters, raised_cons,
      List.foldl_append]

-- The balance is kept for what came before, so that the requests can be taken one by one.
theorem balanced_after {raised : List Counter} {told : List Event} {granted : List Request}
    (requests : List Request) (h : Balanced s.store.tables raised told granted)
    (memory : s.store.backing? = none) (fresh : s.Fresh requests) :
    Balanced (s.after policy requests).store.tables (raised ++ s.raised policy requests)
      (told ++ s.events policy requests) (granted ++ s.granted policy requests) := by
  induction requests generalizing s raised told granted with
  | nil =>
    have hNone : s.raised policy [] = [] ∧ s.events policy [] = [] ∧ s.granted policy [] = [] :=
      ⟨rfl, rfl, rfl⟩
    rw [hNone.1, hNone.2.1, hNone.2.2, List.append_nil, List.append_nil, List.append_nil]
    exact h
  | cons r rest ih =>
    have hMemory : (s.serve policy r).service.store.backing? = none := Task.memory_run _ memory
    have hStep := h.step (serve_effect policy s r)
      fun e failed => fresh.newLead?_of_storage memory e failed
    have hRest := ih hStep hMemory fresh.step
    rw [← (serve_accounts policy s memory r).events] at hRest
    rw [raised_cons, events_cons, granted_cons, ← List.append_assoc, ← List.append_assoc,
      ← List.append_assoc]
    exact hRest

theorem memory_of_mem_steps (memory : s.store.backing? = none) (requests : List Request)
    {step : Service × Request} (h : step ∈ s.steps policy requests) :
    step.1.store.backing? = none := by
  induction requests generalizing s with
  | nil => cases h
  | cons r rest ih =>
    rcases List.mem_cons.mp h with rfl | h
    · exact memory
    · exact ih (Task.memory_run _ memory) h

/-- Whatever is asked of a new service without a disk, if no new lead gets an id that another got:
the counters, the events and the records tell the same. What was created and not deleted is there;
work is counted as often as it is told; a check that passed was that of a lead that was written or
of a trial; a check that failed was told as a refusal; a trial that passed was told; and what was
not there is not told at all. -/
theorem counters_tell_story (policy : Policy) (requests : List Request)
    (fresh : (requests.filterMap Request.newLead?).Nodup) (few : requests.length < 2 ^ 64) :
    let ended := ({} : Service).after policy requests
    let granted := ({} : Service).granted policy requests
    let counted (counter : Counter) : Nat := (ended.counters.value counter).toNat
    let told (event : Event) : Nat := (({} : Service).events policy requests).count event
    counted .productsCreated = counted .productsDeleted + ended.store.tables.products.rows.length ∧
      counted .leadsCreated = counted .leadsDeleted + ended.store.tables.leads.rows.length ∧
      (∀ event counter, event.counter? = some counter → counted counter = told event) ∧
      counted .validationsPassed = counted .leadsCreated + counted .leadsUpdated +
        granted.countP Request.isDataTrial ∧
      counted .validationsFailed + counted .schemasRejected =
        told .leadRejected + told .schemaRejected + told .validationFailed ∧
      told .validationPassed = (granted.countP fun r => r.gate = .dryRun) ∧
      ∀ (s : Service) (r : Request) (kind : RecordKind) (id : String),
        (s, r) ∈ ({} : Service).steps policy requests →
        (s.serve policy r).result = .error (.notFound kind id) →
        (s.serve policy r).log.filterMap Notice.event? = [] := by
  intro ended granted counted told
  have hFresh : ({} : Service).Fresh requests := ⟨fresh, fun _ _ => rfl⟩
  have hEmpty : Balanced ({} : Service).store.tables [] [] [] :=
    ⟨rfl, rfl, fun _ => rfl, rfl, rfl, rfl⟩
  obtain ⟨products, leads, work, passed, refused, trials⟩ :
      Balanced ended.store.tables (({} : Service).raised policy requests)
        (({} : Service).events policy requests) granted :=
    balanced_after requests hEmpty rfl hFresh
  have hCounted (counter : Counter) :
      counted counter = (({} : Service).raised policy requests).count counter := by
    have hFew : (({} : Service).raised policy requests).count counter < 2 ^ 64 :=
      Nat.lt_of_le_of_lt (count_raised_le requests counter) few
    have hZero : ({} : Service).counters.value counter = 0 := rfl
    dsimp only [counted, ended]
    rw [counters_after rfl, Counters.value_foldl_bump, hZero, UInt64.zero_add]
    exact UInt64.toNat_ofNat_of_lt' hFew
  simp only [hCounted]
  refine ⟨products, leads, fun _ _ => work, passed, refused, trials, ?_⟩
  intro s r kind id hStep hMissing
  have hEvents := (serve_accounts policy s (memory_of_mem_steps rfl requests hStep) r).events
  rw [hMissing] at hEvents
  exact hEvents

end Runs

/-- Two leads are created and one is deleted, one write and one trial are refused, and a lead is
looked for in vain. -/
theorem counters_tell_story_two_leads :
    let now : Instant := ⟨0, 0⟩
    let definition : Value := .object [("name", .object [("type", .text "string")])]
    let named (name : Value) : Value := .object [("name", name)]
    let requests : List Request := [.createProduct "p" now ⟨"Loans", "", definition⟩,
      .createLead "a" now ⟨"p", named (.text "Ann")⟩, .createLead "b" now ⟨"p", named (.text "Bo")⟩,
      .updateLead "a" now ⟨named (.int 1)⟩, .validateData "p" ⟨named (.text "Cy")⟩,
      .checkSchema ⟨named (.int 1)⟩, .deleteLead "a", .getLead "a"]
    let ended := ({} : Service).after {} requests
    let counted (counter : Counter) : Nat := (ended.counters.value counter).toNat
    let told (event : Event) : Nat := (({} : Service).events {} requests).count event
    (requests.filterMap Request.newLead?).Nodup ∧ requests.length < 2 ^ 64 ∧
      counted .leadsCreated = counted .leadsDeleted + 1 ∧
      counted .validationsPassed = counted .leadsCreated + counted .leadsUpdated + 1 ∧
      counted .validationsFailed + counted .schemasRejected = 2 ∧ told .leadDeleted = 1 := by
  intro now definition named requests ended counted told
  have hFresh : (requests.filterMap Request.newLead?).Nodup := by
    have hNew : requests.filterMap Request.newLead? = ["a", "b"] := rfl
    rw [hNew]
    decide
  have hFew : requests.length < 2 ^ 64 := by
    have hLength : requests.length = 8 := rfl
    rw [hLength]
    decide
  have hRows : (({} : Service).after {} requests).store.tables.leads.rows.length = 1 := by
    decide +kernel
  have hTrials : (({} : Service).granted {} requests).countP Request.isDataTrial = 1 := by
    decide +kernel
  have hTold : ({} : Service).events {} requests = [.productCreated, .leadCreated, .leadCreated,
      .leadRejected, .validationPassed, .validationFailed, .leadDeleted] := by decide +kernel
  obtain ⟨-, hLeads, -, hPassed, hRefused, -⟩ := counters_tell_story {} requests hFresh hFew
  rw [hRows] at hLeads
  rw [hTrials] at hPassed
  rw [hTold] at hRefused
  refine ⟨hFresh, hFew, ?_⟩
  dsimp only [counted, told, ended]
  rw [hTold]
  exact ⟨hLeads, hPassed, hRefused, by decide⟩

end Service

end Intake
