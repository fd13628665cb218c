import Intake.Command
import Intake.Proofs.Runs
import Intake.Proofs.StrictReading
import Intake.Proofs.Tables

/-! # Offline checks

The command that checks data against a definition comes to what a service comes to that is given
the definition as a product and then the data. Both fail with the same codes and messages.
-/

namespace Intake

namespace Service

open Operation

variable [Pattern.Engine] (s : Service)

/-- A refused definition leaves no product behind. -/
theorem perform_createProduct_of_error {id : String} {now : Instant} {request : ProductRequest}
    {e : DefinitionError} (refused : Schema.ofDefinition request.schema = .error e) :
    (s.perform (createProduct id now request)).result = .error (.invalidSchema e) := by
  unfold createProduct
  rw [perform_bind, perform_checkDefinition, refused]
  rfl

/-- Where the definition can be read and the id is not taken, a store without a backing takes the
product and then gives it back. -/
theorem perform_createProduct_of_ok {id : String} {now : Instant} {request : ProductRequest}
    {schema : Schema} (accepted : Schema.ofDefinition request.schema = .ok schema)
    (memory : s.store.backing? = none)
    (untaken : s.store.tables.products.contains id = false) :
    let product : Product := ⟨id, request.name, request.description, request.schema, now, now⟩
    let created := s.perform (createProduct id now request)
    created.result = .ok product ∧ created.service.store.get id = .ok product := by
  intro product created
  obtain ⟨store, hInsert, hGet⟩ := Store.insert_of_memory (r := product) memory untaken
  have hAsk : s.perform (ask (.insertProduct product)) =
      ⟨.ok (), { s with store := store }, []⟩ := by
    rw [perform_ask]
    simp only [Store.perform, hInsert]
  have hCreated : created = ⟨.ok product,
      { store := store, counters := s.counters.bump .productsCreated },
      [.done .productCreated]⟩ := by
    simp only [created, createProduct, perform_bind, perform_checkDefinition, accepted,
      Ran.andThen_ok, product] at hAsk ⊢
    rw [hAsk]
    simp
  rw [hCreated]
  exact ⟨rfl, hGet⟩

theorem perform_validateData_of_get {rules : Rules} {id : String} {product : Product}
    (found : s.store.get id = .ok product) (data : Value) :
    s.perform (validateData rules id data) = s.judged rules .dryRun product.schema data := by
  have hGet : s.perform (getProduct id) = ⟨.ok product, s, []⟩ := by
    simp only [getProduct, perform_ask, Store.perform, found]
  rw [validateData, perform_checkData, hGet]
  rfl

/-- A definition that was read strictly is as strict when data is checked. -/
theorem judged_of_ofDefinition {rules : Rules} {gate : Gate} {definition : Value} {schema : Schema}
    (accepted : Schema.ofDefinition definition = .ok schema) (data : Value) :
    (s.judged rules gate definition data).result =
      (schema.validate rules data).mapError .invalidData := by
  unfold judged
  rw [Schema.ofStored_of_ofDefinition accepted]
  simp only
  cases schema.validate rules data <;> rfl

end Service

namespace Command

/-- What the check of data against a definition comes to. -/
def judge [Pattern.Engine] (strict : Bool) (definition data : Value) : Except CommandError Unit :=
  match Schema.ofDefinition definition with
  | .error e => .error (.definition e)
  | .ok schema => (schema.validate ⟨strict⟩ data).mapError .data

theorem run_validate [Pattern.Engine] {d : Disk} {schemaPath dataPath : String}
    {definition data : Value} (hDefinition : readValue d schemaPath = .ok definition)
    (hData : readValue d dataPath = .ok data) (strict : Bool) :
    run d (.validate schemaPath dataPath strict) =
      ((judge strict definition data).map fun _ => .report (.obj [("valid", .bool true)]), d) := by
  simp only [run, readSchema, hDefinition, judge]
  cases Schema.ofDefinition definition with
  | error e => rfl
  | ok schema =>
    simp only [Except.mapError, hData]
    cases schema.validate ⟨strict⟩ data <;> rfl

end Command

open Operation in
/-- The command and a new service come to the same: both succeed, or both fail with the same code
and message. A definition that is accepted once is read as the same schema from then on. -/
theorem offline_check_agrees [Pattern.Engine] (definition data : Value) (strict : Bool)
    (id name description : String) (now : Instant) :
    let offline := Command.judge strict definition data
    let created := ({} : Service).perform (createProduct id now ⟨name, description, definition⟩)
    let tried := created.service.perform (validateData ⟨strict⟩ id data)
    let served : Except ServiceError Unit := do
      let _ ← created.result
      tried.result
    (offline.mapError fun e => (e.code, e.message)) =
        (served.mapError fun e => (e.code, e.message)) ∧
      (∀ schema, Schema.ofDefinition definition = .ok schema →
        Schema.ofStored definition = (schema, [])) ∧
      ∀ (d : Disk) (schemaPath dataPath : String),
        Command.readValue d schemaPath = .ok definition →
        Command.readValue d dataPath = .ok data →
        Command.run d (.validate schemaPath dataPath strict) =
          (offline.map fun _ => .report (.obj [("valid", .bool true)]), d) := by
  intro offline created tried served
  refine ⟨?_, fun _ accepted => Schema.ofStored_of_ofDefinition accepted,
    fun _ _ _ hDefinition hData => Command.run_validate hDefinition hData strict⟩
  cases hRead : Schema.ofDefinition definition with
  | error e =>
    have hCreated : created.result = .error (.invalidSchema e) :=
      Service.perform_createProduct_of_error {} hRead
    simp only [offline, served, Command.judge, hRead, hCreated]
    rfl
  | ok schema =>
    have hStored : created.result = .ok ⟨id, name, description, definition, now, now⟩ ∧
        created.service.store.get id =
          .ok (⟨id, name, description, definition, now, now⟩ : Product) :=
      Service.perform_createProduct_of_ok {} hRead rfl rfl
    obtain ⟨hCreated, hGet⟩ := hStored
    have hTried : tried.result = (schema.validate ⟨strict⟩ data).mapError .invalidData := by
      rw [← Service.judged_of_ofDefinition _ hRead data]
      exact congrArg Ran.result (Service.perform_validateData_of_get _ hGet data)
    simp only [offline, served, Command.judge, hRead, hCreated, hTried]
    cases schema.validate ⟨strict⟩ data <;> rfl

/-- The file of the definition asks for a text where the file of the data has a number. -/
theorem offline_check_number_for_text :
    let definition : Value := .object [("name", .object [("type", .text "string")])]
    let data : Value := .object [("name", .int 4)]
    let schema : Schema := .mk [("name", .mk false (.text {}))]
    let d : Disk :=
      { entries :=
          [(["schema"], .file (.text "\x7b\"name\":\x7b\"type\":\"string\"\x7d\x7d")),
            (["data"], .file (.text "\x7b\"name\":4\x7d"))] }
    Schema.ofDefinition definition = .ok schema ∧
      Command.readValue d "schema" = .ok definition ∧ Command.readValue d "data" = .ok data ∧
      Schema.ofStored definition = (schema, []) ∧
      Command.run d (.validate "schema" "data" true) =
        ((Command.judge true definition data).map fun _ =>
          .report (.obj [("valid", .bool true)]), d) := by
  intro definition data schema d
  have hSchema : Schema.ofDefinition definition = .ok schema := by decide +kernel
  have hDefinition : Command.readValue d "schema" = .ok definition := by
    have hFile : d.read "schema" = .ok "\x7b\"name\":\x7b\"type\":\"string\"\x7d\x7d" := rfl
    have hText : Value.read? "\x7b\"name\":\x7b\"type\":\"string\"\x7d\x7d" = some definition := by
      decide +kernel
    simp only [Command.readValue, hFile, hText]
  have hData : Command.readValue d "data" = .ok data := by
    have hFile : d.read "data" = .ok "\x7b\"name\":4\x7d" := rfl
    have hText : Value.read? "\x7b\"name\":4\x7d" = some data := by decide +kernel
    simp only [Command.readValue, hFile, hText]
  obtain ⟨-, hStored, hRun⟩ := offline_check_agrees definition data true "p" "" "" ⟨0, 0⟩
  exact ⟨hSchema, hDefinition, hData, hStored schema hSchema,
    hRun d "schema" "data" hDefinition hData⟩

end Intake
