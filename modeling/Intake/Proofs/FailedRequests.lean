import Intake.Proofs.Requests

/-! # Requests that fail

A request that fails leaves the tables of a service as they were, and of its counters it raises at
most the one that tells of its failure. What only looks leaves the tables alone in any case.
-/

namespace Intake

/-- How a request fails where no disk can fail, and the counters it leaves. Only a new record can
meet an id that is taken, and a lead meets it when its data has passed. -/
inductive Failed (t : Tables) (c : Counters) : Request → ServiceError → Counters → Prop where
  | invalidSchema {r : Request} (cause : DefinitionError) :
      Failed t c r (.invalidSchema cause) (c.bump .schemasRejected)
  | invalidData {r : Request} (cause : Failure) :
      Failed t c r (.invalidData cause) (c.bump .validationsFailed)
  | notFound {r : Request} (kind : RecordKind) (id : String) : Failed t c r (.notFound kind id) c
  | takenProduct {id : String} {now : Instant} {body : ProductRequest}
      (taken : t.products.contains id = true) :
      Failed t c (.createProduct id now body) (.storage (.duplicate id)) c
  | takenLead {id : String} {now : Instant} {body : LeadRequest}
      (taken : t.leads.contains id = true) :
      Failed t c (.createLead id now body) (.storage (.duplicate id)) (c.bump .validationsPassed)

namespace Store

variable {α : Type} [Stored α] {s : Store} {r : α} {id : String} {e : StorageError}

theorem save_of_memory (memory : s.backing? = none) (r : α) (t : Table α) :
    s.save r t = (.ok (), s.withTable t) := by
  rw [save, memory]

theorem insert_of_error (memory : s.backing? = none) (h : (s.insert r).1 = .error e) :
    (Stored.table s.tables : Table α).contains (Record.id r) = true ∧
      e = .duplicate (Record.id r) ∧ (s.insert r).2 = s := by
  rw [insert] at h ⊢
  cases hInsert : (Stored.table s.tables).insert? r with
  | none =>
    rw [hInsert] at h
    cases h
    refine ⟨?_, rfl, rfl⟩
    by_contra hUntaken
    rw [Table.insert?, dif_pos (Bool.eq_false_iff.mpr hUntaken)] at hInsert
    cases hInsert
  | some t =>
    rw [hInsert] at h
    dsimp only at h
    rw [save_of_memory memory] at h
    cases h

theorem update_of_error (memory : s.backing? = none) (h : (s.update r).1 = .error e) :
    (Stored.table s.tables : Table α).contains (Record.id r) = false ∧
      e = missing α (Record.id r) ∧ (s.update r).2 = s := by
  rw [update] at h ⊢
  cases hKnown : (Stored.table s.tables : Table α).contains (Record.id r) with
  | true =>
    rw [if_pos hKnown, save_of_memory memory] at h
    cases h
  | false =>
    rw [if_neg (by simp [hKnown])] at h ⊢
    cases h
    exact ⟨rfl, rfl, rfl⟩

/-- A record that has just been found can be updated. -/
theorem update_of_get {old : α} (memory : s.backing? = none)
    (found : s.get (Record.id r) = .ok old) : (s.update r).1 = .ok () := by
  cases hUpdate : (s.update r).1 with
  | ok => rfl
  | error e =>
    obtain ⟨hUnknown, -, -⟩ := update_of_error memory hUpdate
    have hKnown : (Stored.table s.tables : Table α).contains (Record.id r) = true :=
      Table.contains_eq_true_iff.mpr ⟨old, get_eq_ok_iff.mp found⟩
    exact absurd hKnown (Bool.eq_false_iff.mp hUnknown)

theorem delete_of_error (memory : s.backing? = none) (h : (s.delete α id).1 = .error e) :
    e = missing α id ∧ (s.delete α id).2 = s := by
  rw [delete] at h ⊢
  cases hKnown : (Stored.table s.tables : Table α).contains id with
  | true =>
    rw [if_pos hKnown, memory] at h
    cases h
  | false =>
    rw [if_neg (by simp [hKnown])] at h ⊢
    cases h
    exact ⟨rfl, rfl⟩

end Store

namespace Operation

variable {α β : Type} {s : Service} {P : ServiceError → Service → Prop}

/-- What holds of every failure of an operation and of the service that it leaves. -/
def Fails (s : Service) (op : Operation α) (P : ServiceError → Service → Prop) : Prop :=
  ∀ e, (s.perform op).result = .error e → P e (s.perform op).service

theorem Fails.bind {op : Operation α} {f : α → Operation β} (first : Fails s op P)
    (second : ∀ a, (s.perform op).result = .ok a → Fails (s.perform op).service (f a) P) :
    Fails s (op >>= f) P := by
  intro e h
  rw [Service.perform_bind] at h ⊢
  unfold Fails at first
  generalize s.perform op = ran at first second h ⊢
  obtain ⟨e' | a, service, log⟩ := ran
  · cases h
    exact first e rfl
  · exact second a rfl e h

theorem Fails.map {op : Operation α} (f : α → β) (h : Fails s op P) : Fails s (f <$> op) P := by
  rw [← bind_pure_comp]
  exact h.bind fun _ _ => nofun

theorem fails_report (counter : Counter) (event : Event) (a : α) :
    Fails s (do count counter; note (.done event); pure a) P := by
  intro e h
  cases h

theorem fails_ask {c : StoreCall β}
    (h : ∀ e, (Store.perform c s.store).1 = .error e →
      P (.ofStorage e) { s with store := (Store.perform c s.store).2 }) : Fails s (ask c) P := by
  intro e hError
  cases hCall : (Store.perform c s.store).1 with
  | ok b =>
    rw [Service.perform_ask_of_ok s hCall] at hError
    cases hError
  | error cause =>
    rw [Service.perform_ask_of_error s hCall] at hError ⊢
    cases hError
    exact h cause hCall

theorem fails_ask_then {c : StoreCall α} {f : α → Operation β}
    (h : ∀ e, (Store.perform c s.store).1 = .error e →
      P (.ofStorage e) { s with store := (Store.perform c s.store).2 })
    (next : ∀ a, (Store.perform c s.store).1 = .ok a →
      Fails { s with store := (Store.perform c s.store).2 } (f a) P) :
    Fails s (ask c >>= f) P := by
  refine (fails_ask h).bind fun a hOk => ?_
  cases hCall : (Store.perform c s.store).1 with
  | ok b =>
    rw [Service.perform_ask_of_ok s hCall] at hOk ⊢
    cases hOk
    exact next a hCall
  | error cause =>
    rw [Service.perform_ask_of_error s hCall] at hOk
    cases hOk

theorem fails_checkDefinition_then [Pattern.Engine] {gate : Gate} {definition : Value}
    {f : Unit → Operation β}
    (h : ∀ cause, P (.invalidSchema cause)
      { s with counters := s.counters.bump .schemasRejected })
    (next : Fails s (f ()) P) : Fails s (checkDefinition gate definition >>= f) P := by
  have hRun := Service.perform_checkDefinition s gate definition
  cases hRead : Schema.ofDefinition definition with
  | ok schema =>
    rw [hRead] at hRun
    refine Fails.bind ?_ ?_
    · rw [Fails, hRun]
      exact nofun
    · rw [hRun]
      exact fun _ _ => next
  | error cause =>
    rw [hRead] at hRun
    refine Fails.bind ?_ ?_
    · rw [Fails, hRun]
      rintro _ ⟨rfl⟩
      exact h cause
    · rw [hRun]
      exact nofun

section Checking

variable {rules : Rules} {gate : Gate} {productId : String} {data : Value}
  (missing : P (.notFound .product productId) s)
  (invalid : ∀ f, P (.invalidData f) { s with counters := s.counters.bump .validationsFailed })
include missing invalid

theorem fails_checkData [Pattern.Engine] : Fails s (checkData rules gate productId data) P := by
  intro e h
  rcases Service.perform_checkData_cases s rules productId data gate with
    ⟨product, log, -, -, hRun⟩ | ⟨f, log, hRun⟩ | ⟨log, hRun⟩
  · rw [hRun] at h
    cases h
  · rw [hRun] at h ⊢
    cases h
    exact invalid f
  · rw [hRun] at h ⊢
    cases h
    exact missing

theorem fails_checkData_then [Pattern.Engine] {f : Unit → Operation β}
    (next : Fails { s with counters := s.counters.bump .validationsPassed } (f ()) P) :
    Fails s (checkData rules gate productId data >>= f) P := by
  refine (fails_checkData missing invalid).bind fun _ hOk => ?_
  rcases Service.perform_checkData_cases s rules productId data gate with
    ⟨product, log, -, -, hRun⟩ | ⟨f, log, hRun⟩ | ⟨log, hRun⟩
  · rw [hRun]
    exact next
  · rw [hRun] at hOk
    cases hOk
  · rw [hRun] at hOk
    cases hOk

end Checking

end Operation

namespace Service

open Operation

/-- A failure that leaves the store as it was, and the counters that go with it. -/
def LeftAs (s : Service) (r : Request) (e : ServiceError) (left : Service) : Prop :=
  left.store = s.store ∧ Failed s.store.tables s.counters r e left.counters

theorem fails_operation [Pattern.Engine] (policy : Policy) {s : Service}
    (memory : s.store.backing? = none) (r : Request) :
    Fails s (r.operation policy) (s.LeftAs r) := by
  cases r with
  | createProduct id now body =>
    refine Fails.map _ (fails_checkDefinition_then (fun cause => ⟨rfl, .invalidSchema cause⟩) ?_)
    refine fails_ask_then (fun e h => ?_) fun _ _ => fails_report _ _ _
    obtain ⟨hTaken, rfl, hSame⟩ := Store.insert_of_error memory h
    exact ⟨hSame, .takenProduct hTaken⟩
  | updateProduct id now body =>
    refine Fails.map _ (fails_checkDefinition_then (fun cause => ⟨rfl, .invalidSchema cause⟩) ?_)
    refine fails_ask_then (fun e h => ?_) fun old _ => ?_
    · obtain rfl := Store.get_of_error h
      exact ⟨rfl, .notFound _ _⟩
    · refine fails_ask_then (fun e h => ?_) fun _ _ => fails_report _ _ _
      obtain ⟨-, rfl, hSame⟩ := Store.update_of_error memory h
      exact ⟨hSame, .notFound _ _⟩
  | deleteProduct id =>
    refine Fails.map _ (fails_ask_then (fun e h => ?_) fun _ _ => nofun)
    obtain ⟨rfl, hSame⟩ := Store.delete_of_error memory h
    exact ⟨hSame, .notFound _ _⟩
  | createLead id now body =>
    refine Fails.map _ (fails_checkData_then ⟨rfl, .notFound _ _⟩
      (fun f => ⟨rfl, .invalidData f⟩) ?_)
    refine fails_ask_then (fun e h => ?_) fun _ _ => fails_report _ _ _
    obtain ⟨hTaken, rfl, hSame⟩ := Store.insert_of_error memory h
    exact ⟨hSame, .takenLead hTaken⟩
  | updateLead id now body =>
    refine Fails.map _ (fails_ask_then (fun e h => ?_) fun old hOld => ?_)
    · obtain rfl := Store.get_of_error h
      exact ⟨rfl, .notFound _ _⟩
    · refine fails_checkData_then ⟨rfl, .notFound _ _⟩ (fun f => ⟨rfl, .invalidData f⟩) ?_
      refine fails_ask_then (fun e h => ?_) fun _ _ => fails_report _ _ _
      -- The lead has just been found, and the check of its new data has taken nothing away.
      have hId : id = old.id := (Table.id_of_find? (Store.get_eq_ok_iff.mp hOld)).symm
      have hOk := Store.update_of_get (r := { old with data := body.data, updatedAt := now })
        memory (hId ▸ hOld)
      cases hOk.symm.trans h
  | deleteLead id =>
    refine Fails.map _ (fails_ask_then (fun e h => ?_) fun _ _ => nofun)
    obtain ⟨rfl, hSame⟩ := Store.delete_of_error memory h
    exact ⟨hSame, .notFound _ _⟩
  | getProduct id =>
    refine Fails.map _ (fails_ask fun e h => ?_)
    obtain rfl := Store.get_of_error h
    exact ⟨rfl, .notFound _ _⟩
  | getLead id =>
    refine Fails.map _ (fails_ask fun e h => ?_)
    obtain rfl := Store.get_of_error h
    exact ⟨rfl, .notFound _ _⟩
  | listProducts query =>
    exact Fails.map _ (fails_ask_then nofun fun _ _ => fails_ask_then nofun fun _ _ => nofun)
  | listLeads query =>
    exact Fails.map _ (fails_ask_then nofun fun _ _ => fails_ask_then nofun fun _ _ => nofun)
  | validateData productId body =>
    exact (fails_checkData ⟨rfl, .notFound _ _⟩ fun f => ⟨rfl, .invalidData f⟩).map _
  | checkSchema body =>
    exact Fails.map _ (fails_checkDefinition_then (fun cause => ⟨rfl, .invalidSchema cause⟩) nofun)

section Failure

variable [Pattern.Engine]

end Failure

end Service

end Intake
