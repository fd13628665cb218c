import Intake.Service

/-! # Runs of operations

What an operation answers, what it leaves and what it logs, when all its steps are done in a row.
Each operation of the service has one lemma, and callers are run by the lemmas of what they call.
-/

namespace Intake

namespace Task

theorem run_bind {α β : Type} (t : Task α) (f : α → Task β) (s : Service) :
    (t.bind f).run s =
      let first := t.run s
      let second := (f first.result).run first.service
      { second with log := first.log ++ second.log } := by
  induction t generalizing s with
  | done a => rfl
  | call c next ih =>
    simp only [bind, run]
    exact ih _ _
  | note n next ih =>
    simp only [bind, run, ih]
    rfl
  | count c next ih =>
    simp only [bind, run]
    exact ih _
  | read next ih =>
    simp only [bind, run]
    exact ih _ _

end Task

namespace Ran

/-- Goes on where a run has ended, unless it has failed. -/
def andThen {α β : Type} (ran : Ran (Except ServiceError α))
    (next : α → Service → Ran (Except ServiceError β)) : Ran (Except ServiceError β) :=
  match ran.result with
  | .error e => ⟨.error e, ran.service, ran.log⟩
  | .ok a => { next a ran.service with log := ran.log ++ (next a ran.service).log }

@[simp] theorem andThen_ok {α β : Type} (a : α) (s : Service) (log : List Notice)
    (next : α → Service → Ran (Except ServiceError β)) :
    (⟨.ok a, s, log⟩ : Ran (Except ServiceError α)).andThen next =
      { next a s with log := log ++ (next a s).log } := rfl

@[simp] theorem andThen_error {α β : Type} (e : ServiceError) (s : Service) (log : List Notice)
    (next : α → Service → Ran (Except ServiceError β)) :
    (⟨.error e, s, log⟩ : Ran (Except ServiceError α)).andThen next = ⟨.error e, s, log⟩ := rfl

end Ran

namespace Service

open Operation

variable {α β : Type} (s : Service)

theorem perform_bind (op : Operation α) (f : α → Operation β) :
    s.perform (op >>= f) = (s.perform op).andThen fun a s => s.perform (f a) := by
  have hRun : s.perform (op >>= f) = (op.run.bind (ExceptT.bindCont f)).run s := rfl
  rw [hRun, Task.run_bind]
  unfold perform
  generalize op.run.run s = first
  obtain ⟨e | a, s', log⟩ := first
  · simp [ExceptT.bindCont, pure, Task.run]
  · rfl

@[simp] theorem perform_pure (a : α) : s.perform (pure a) = ⟨.ok a, s, []⟩ := rfl

@[simp] theorem perform_throw (e : ServiceError) :
    s.perform (throw e : Operation α) = ⟨.error e, s, []⟩ := rfl

@[simp] theorem perform_note (n : Notice) : s.perform (note n) = ⟨.ok (), s, [n]⟩ := rfl

@[simp] theorem perform_count (c : Counter) :
    s.perform (count c) = ⟨.ok (), { s with counters := s.counters.bump c }, []⟩ := rfl

theorem perform_call (c : StoreCall β) :
    s.perform (call c) =
      ⟨.ok (Store.perform c s.store).1, { s with store := (Store.perform c s.store).2 }, []⟩ := rfl

/-- What the log says of an error of the store. -/
def storageNotices (e : StorageError) : List Notice :=
  if e.isNotFound then []
  else [.failed (if e.isFatal then .storeCorrupt else .storageFailure) e.code]

theorem perform_storageFailure (e : StorageError) :
    s.perform (storageFailure e : Operation β) = ⟨.error (.ofStorage e), s, storageNotices e⟩ := by
  unfold storageFailure storageNotices
  cases e.isNotFound <;> simp [perform_bind]

theorem perform_ask (c : StoreCall β) :
    s.perform (ask c) =
      match Store.perform c s.store with
      | (.ok b, store) => ⟨.ok b, { s with store := store }, []⟩
      | (.error e, store) =>
        ⟨.error (.ofStorage e), { s with store := store }, storageNotices e⟩ := by
  unfold ask
  rw [perform_bind, perform_call, Ran.andThen_ok]
  cases Store.perform c s.store with
  | mk r store => cases r <;> simp [perform_storageFailure]

theorem perform_checkDefinition [Pattern.Engine] (gate : Gate) (definition : Value) :
    s.perform (checkDefinition gate definition) =
      match Schema.ofDefinition definition with
      | .ok _ => ⟨.ok (), s, []⟩
      | .error e => ⟨.error (.invalidSchema e),
          { s with counters := s.counters.bump .schemasRejected },
          [.rejected gate.schemaRejected e.code]⟩ := by
  unfold checkDefinition
  cases Schema.ofDefinition definition <;> simp [perform_bind]

theorem perform_noteAll (notices : List DefinitionNotice) :
    s.perform (noteAll notices) = ⟨.ok (), s, notices.map .definition⟩ := by
  induction notices with
  | nil => rfl
  | cons n rest ih => simp [noteAll, perform_bind, ih]

/-- What comes of data that is checked against a definition, read leniently. -/
def judged [Pattern.Engine] (rules : Rules) (gate : Gate) (definition data : Value) :
    Ran (Except ServiceError Unit) :=
  let (schema, notices) := Schema.ofStored definition
  match schema.validate rules data with
  | .ok () => ⟨.ok (), { s with counters := s.counters.bump .validationsPassed },
      notices.map .definition ++ if gate = .dryRun then [.done .validationPassed] else []⟩
  | .error f => ⟨.error (.invalidData f),
      { s with counters := s.counters.bump .validationsFailed },
      notices.map .definition ++ [.rejected gate.dataRejected f.code]⟩

theorem perform_checkData [Pattern.Engine] (rules : Rules) (gate : Gate) (productId : String)
    (data : Value) :
    s.perform (checkData rules gate productId data) =
      (s.perform (getProduct productId)).andThen fun product s =>
        s.judged rules gate product.schema data := by
  unfold checkData
  rw [perform_bind]
  congr
  funext product s
  unfold judged
  rw [perform_bind, perform_noteAll, Ran.andThen_ok]
  cases Schema.ofStored product.schema with
  | mk schema notices =>
    cases h : schema.validate rules data with
    | ok => by_cases hGate : gate = .dryRun <;> simp [h, hGate, perform_bind]
    | error f => simp [h, perform_bind]

end Service

end Intake
