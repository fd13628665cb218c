import Intake.Proofs.Opening
import Intake.Proofs.ReceivedBodies
import Intake.Proofs.Requests

/-! # Services on disk

A service whose store is on disk answers every request as one without a disk answers it, and its
store is on disk afterwards. This is shown of operations step by step: it is kept up by what
operations are put together from, and so by the operations.
-/

namespace Intake

open Files

/-- A call that adds records only under names for a file, with values that come from documents. -/
def StoreCall.Sourced : {β : Type} → StoreCall β → Prop
  | _, insertProduct p => IsPlain p.id ∧ p.Sourced
  | _, updateProduct p => p.Sourced
  | _, insertLead l => IsPlain l.id ∧ l.Sourced
  | _, updateLead l => l.Sourced
  | _, _ => True

theorem StoreCall.Sourced.fits {β : Type} {c : StoreCall β} (h : c.Sourced) : c.Fits .written := by
  cases c with
  | insertProduct p => exact ⟨h.1, rfl⟩
  | insertLead l => exact ⟨h.1, rfl⟩
  | updateProduct | updateLead => exact rfl
  | deleteProduct | deleteLead | getProduct | listProducts | countProducts | getLead | listLeads
  | countLeads => exact trivial

namespace Store

/-- A store on disk all of whose files are as they were written and all of whose values come from
documents. -/
structure Faithful (s : Store) (root : String) (q : Place) : Prop where
  onDisk : ∃ d, OnDisk .written s root q d
  products : ∀ p ∈ s.tables.products.rows, p.Sourced
  leads : ∀ l ∈ s.tables.leads.rows, l.Sourced

section Rows

variable {α : Type} [Stored α] {s : Store} {P : α → Prop} {r : α}

/-- At most the table of one kind is another one, and something holds of all its rows. -/
def Retabled (P : α → Prop) (s s' : Store) : Prop :=
  s'.tables = s.tables ∨
    ∃ t : Table α, s'.tables = Stored.withTable s.tables t ∧ ∀ r ∈ t.rows, P r

theorem retabled_insert (h : ∀ r ∈ (Stored.table s.tables : Table α).rows, P r) (new : P r) :
    Retabled P s (s.insert r).2 := by
  rcases insert_cases s r with ⟨t, hInsert, -, hTables⟩ | ⟨e, -, hTables⟩
  · obtain ⟨-, hRows⟩ := Table.insert?_eq_some_iff.mp hInsert
    refine .inr ⟨t, hTables, ?_⟩
    rw [hRows]
    exact List.forall_mem_append.mpr ⟨h, List.forall_mem_singleton.mpr new⟩
  · exact .inl hTables

theorem retabled_update (h : ∀ r ∈ (Stored.table s.tables : Table α).rows, P r) (new : P r) :
    Retabled P s (s.update r).2 := by
  rcases update_cases s r with ⟨-, -, hTables⟩ | ⟨e, -, hTables⟩
  · refine .inr ⟨_, hTables, fun r' hMem => ?_⟩
    obtain ⟨old, hOld, rfl⟩ := List.mem_map.mp hMem
    unfold Table.put
    split
    · exact new
    · exact h old hOld
  · exact .inl hTables

theorem retabled_delete (h : ∀ r ∈ (Stored.table s.tables : Table α).rows, P r) (id : String) :
    Retabled P s (s.delete α id).2 := by
  rcases delete_cases α s id with ⟨-, -, hTables⟩ | ⟨e, -, hTables⟩
  · exact .inr ⟨_, hTables, fun r' hMem => h r' (List.mem_of_mem_filter hMem)⟩
  · exact .inl hTables

end Rows

section Faithful

variable {s s' : Store} {root : String} {q : Place}

theorem Faithful.products_retabled (h : s.Faithful root q)
    (onDisk : ∃ d, OnDisk .written s' root q d) (retabled : Retabled Product.Sourced s s') :
    s'.Faithful root q := by
  rcases retabled with hTables | ⟨t, hTables, hRows⟩
  · exact ⟨onDisk, hTables ▸ h.products, hTables ▸ h.leads⟩
  · exact ⟨onDisk, hTables ▸ hRows, hTables ▸ h.leads⟩

theorem Faithful.leads_retabled (h : s.Faithful root q)
    (onDisk : ∃ d, OnDisk .written s' root q d) (retabled : Retabled Lead.Sourced s s') :
    s'.Faithful root q := by
  rcases retabled with hTables | ⟨t, hTables, hRows⟩
  · exact ⟨onDisk, hTables ▸ h.products, hTables ▸ h.leads⟩
  · exact ⟨onDisk, hTables ▸ h.products, hTables ▸ hRows⟩

theorem Faithful.perform {β : Type} (h : s.Faithful root q) {c : StoreCall β}
    (sourced : c.Sourced) (undisturbed : Undisturbed (perform c s).1) :
    (perform c s).2.Faithful root q := by
  obtain ⟨d, hOnDisk⟩ := h.onDisk
  have hThen := hOnDisk.perform sourced.fits undisturbed
  cases c with
  | insertProduct p => exact h.products_retabled hThen (retabled_insert h.products sourced.2)
  | updateProduct p => exact h.products_retabled hThen (retabled_update h.products sourced)
  | deleteProduct id => exact h.products_retabled hThen (retabled_delete h.products id)
  | insertLead l => exact h.leads_retabled hThen (retabled_insert h.leads sourced.2)
  | updateLead l => exact h.leads_retabled hThen (retabled_update h.leads sourced)
  | deleteLead id => exact h.leads_retabled hThen (retabled_delete h.leads id)
  | getProduct | listProducts | countProducts | getLead | listLeads | countLeads => exact h

end Faithful

end Store

/-- An answer that tells of no failure of the disk. -/
def ServiceError.Undisturbed {β : Type} (result : Except ServiceError β) : Prop :=
  ∀ task path cause, result ≠ .error (.storage (.disk task path cause))

namespace Service

def inMemory (s : Service) : Service := { s with store := s.store.inMemory }

end Service

def Ran.inMemory {α : Type} (ran : Ran α) : Ran α := { ran with service := ran.service.inMemory }

namespace Operation

open ServiceError

/-- On a store on disk an operation does what it does without a disk, unless the disk fails; the
store stays on disk, and the results are as they should be. -/
def Mirrored {α : Type} (root : String) (q : Place) (post : α → Prop) (op : Operation α) : Prop :=
  ∀ s : Service, s.store.Faithful root q → Undisturbed (s.perform op).result →
    s.inMemory.perform op = (s.perform op).inMemory ∧
      (s.perform op).service.store.Faithful root q ∧
      ∀ a, (s.perform op).result = .ok a → post a

variable {α β : Type} {root : String} {q : Place} {post : α → Prop} {post' : β → Prop}

theorem mirrored_pure {a : α} (h : post a) : Mirrored root q post (pure a) := by
  intro s hFaithful _
  refine ⟨rfl, hFaithful, ?_⟩
  rintro _ ⟨rfl⟩
  exact h

theorem mirrored_throw (e : ServiceError) : Mirrored root q post (throw e : Operation α) :=
  fun _ hFaithful _ => ⟨rfl, hFaithful, nofun⟩

theorem mirrored_note (n : Notice) : Mirrored root q (fun _ => True) (note n) :=
  fun _ hFaithful _ => ⟨rfl, hFaithful, fun _ _ => trivial⟩

theorem mirrored_count (c : Counter) : Mirrored root q (fun _ => True) (count c) :=
  fun _ hFaithful _ => ⟨rfl, hFaithful, fun _ _ => trivial⟩

theorem Mirrored.bind {op : Operation α} {f : α → Operation β} (first : Mirrored root q post op)
    (second : ∀ a, post a → Mirrored root q post' (f a)) : Mirrored root q post' (op >>= f) := by
  intro s hFaithful hUndisturbed
  rw [Service.perform_bind] at hUndisturbed ⊢
  rw [Service.perform_bind]
  have hFirst := first s hFaithful
  generalize s.perform op = ran at hUndisturbed hFirst ⊢
  obtain ⟨e | a, service, log⟩ := ran
  -- If the first fails, its failure is that of both, and so it is none of the disk.
  · obtain ⟨hSame, hThen, -⟩ := hFirst fun task path cause hError => by
      refine hUndisturbed task path cause ?_
      cases hError
      rfl
    rw [hSame]
    exact ⟨rfl, hThen, nofun⟩
  · obtain ⟨hSame, hThen, hPost⟩ := hFirst nofun
    obtain ⟨hSame', hThen', hPost'⟩ := second a (hPost a rfl) service hThen hUndisturbed
    rw [hSame]
    refine ⟨?_, hThen', hPost'⟩
    change Ran.andThen ⟨.ok a, service.inMemory, log⟩ _ = _
    rw [Ran.andThen_ok, Ran.andThen_ok, hSame']
    rfl

theorem Mirrored.map {op : Operation α} {f : α → β} (h : Mirrored root q (fun _ => True) op) :
    Mirrored root q (fun _ => True) (f <$> op) := by
  rw [← bind_pure_comp]
  exact h.bind fun _ _ => mirrored_pure trivial

theorem Mirrored.forget {op : Operation α} (h : Mirrored root q post op) :
    Mirrored root q (fun _ => True) op := by
  intro s hFaithful hUndisturbed
  obtain ⟨hSame, hThen, -⟩ := h s hFaithful hUndisturbed
  exact ⟨hSame, hThen, fun _ _ => trivial⟩

theorem mirrored_ask {c : StoreCall α} (sourced : c.Sourced)
    (h : ∀ (s : Store) (a : α), s.Faithful root q → (Store.perform c s).1 = .ok a → post a) :
    Mirrored root q post (ask c) := by
  intro s hFaithful hUndisturbed
  have hStore : Store.Undisturbed (Store.perform c s.store).1 := by
    intro task path cause hError
    rw [Service.perform_ask_of_error s hError] at hUndisturbed
    exact hUndisturbed task path cause rfl
  have hMemory : Store.perform c s.inMemory.store = _ :=
    Store.perform_inMemory c s.store hStore
  have hThen := hFaithful.perform sourced hStore
  cases hResult : (Store.perform c s.store).1 with
  | ok a =>
    rw [hResult] at hMemory
    rw [Service.perform_ask_of_ok s hResult, Service.perform_ask_of_ok s.inMemory
      (congrArg Prod.fst hMemory), hMemory]
    refine ⟨rfl, hThen, ?_⟩
    rintro _ ⟨rfl⟩
    exact h s.store a hFaithful hResult
  | error e =>
    rw [hResult] at hMemory
    rw [Service.perform_ask_of_error s hResult, Service.perform_ask_of_error s.inMemory
      (congrArg Prod.fst hMemory), hMemory]
    exact ⟨rfl, hThen, nofun⟩

theorem mirrored_ask_then {c : StoreCall α} {f : α → Operation β} (sourced : c.Sourced)
    (next : ∀ a, Mirrored root q post' (f a)) : Mirrored root q post' (ask c >>= f) :=
  have hAsk : Mirrored root q (fun _ => True) (ask c) :=
    mirrored_ask sourced fun _ _ _ _ => trivial
  hAsk.bind fun a _ => next a

theorem mirrored_checkDefinition [Pattern.Engine] (gate : Gate) (definition : Value) :
    Mirrored root q (fun _ => True) (checkDefinition gate definition) := by
  unfold checkDefinition
  cases Schema.ofDefinition definition with
  | ok schema => exact mirrored_pure trivial
  | error e =>
    exact (mirrored_count _).bind fun _ _ => (mirrored_note _).bind fun _ _ => mirrored_throw _

theorem mirrored_noteAll (notices : List DefinitionNotice) :
    Mirrored root q (fun _ => True) (noteAll notices) := by
  induction notices with
  | nil => exact mirrored_pure trivial
  | cons n rest ih => exact (mirrored_note _).bind fun _ _ => ih

theorem mirrored_ask_getProduct (id : String) :
    Mirrored root q Product.Sourced (ask (.getProduct id)) := by
  refine mirrored_ask trivial fun s p hFaithful hGet => ?_
  exact hFaithful.products p (Table.mem_of_find? (Store.get_eq_ok_iff.mp hGet))

theorem mirrored_ask_getLead (id : String) :
    Mirrored root q Lead.Sourced (ask (.getLead id)) := by
  refine mirrored_ask trivial fun s l hFaithful hGet => ?_
  exact hFaithful.leads l (Table.mem_of_find? (Store.get_eq_ok_iff.mp hGet))

theorem mirrored_checkData [Pattern.Engine] (rules : Rules) (gate : Gate) (productId : String)
    (data : Value) : Mirrored root q (fun _ => True) (checkData rules gate productId data) := by
  unfold checkData
  refine (mirrored_ask_getProduct productId).bind fun product _ => ?_
  dsimp only
  refine (mirrored_noteAll _).bind fun _ _ => ?_
  split
  · refine (mirrored_count _).bind fun _ _ => ?_
    split
    · exact mirrored_note _
    · exact mirrored_pure trivial
  · exact (mirrored_count _).bind fun _ _ => (mirrored_note _).bind fun _ _ => mirrored_throw _

/-- What every operation ends with that has changed something. -/
theorem mirrored_report (counter : Counter) (event : Event) (a : α) :
    Mirrored root q (fun _ => True) (do count counter; note (.done event); pure a) :=
  (mirrored_count _).bind fun _ _ => (mirrored_note _).bind fun _ _ => mirrored_pure trivial

end Operation

/-- A request with an id that can name a file, at a time that can be written, and with a body that
has been read from a text. -/
def Request.Received : Request → Prop
  | createProduct id now body => IsPlain id ∧ now.IsLegal ∧ Body.Arrived body
  | updateProduct _ now body => now.IsLegal ∧ Body.Arrived body
  | createLead id now body => IsPlain id ∧ now.IsLegal ∧ Body.Arrived body
  | updateLead _ now body => now.IsLegal ∧ Body.Arrived body
  | _ => True

namespace Operation

variable {root : String} {q : Place}

/-- Whatever a request asks is done on disk as it is done without one. -/
theorem mirrored_operation [Pattern.Engine] (policy : Policy) {r : Request}
    (received : r.Received) : Mirrored root q (fun _ => True) (r.operation policy) := by
  cases r with
  | createProduct id now body =>
    obtain ⟨hPlain, hLegal, hArrived⟩ := received
    have hSourced := Body.sourced_schema hArrived
    refine Mirrored.map ((mirrored_checkDefinition _ _).bind fun _ _ => ?_)
    exact mirrored_ask_then ⟨hPlain, hSourced, hLegal, hLegal⟩ fun _ => mirrored_report _ _ _
  | updateProduct id now body =>
    obtain ⟨hLegal, hArrived⟩ := received
    have hSourced := Body.sourced_schema hArrived
    refine Mirrored.map ((mirrored_checkDefinition _ _).bind fun _ _ => ?_)
    refine (mirrored_ask_getProduct id).bind fun old hOld => ?_
    exact mirrored_ask_then ⟨hSourced, hOld.createdAt, hLegal⟩ fun _ => mirrored_report _ _ _
  | createLead id now body =>
    obtain ⟨hPlain, hLegal, hArrived⟩ := received
    have hSourced := Body.sourced_leadData hArrived
    refine Mirrored.map ((mirrored_checkData _ _ _ _).bind fun _ _ => ?_)
    exact mirrored_ask_then ⟨hPlain, hSourced, hLegal, hLegal⟩ fun _ => mirrored_report _ _ _
  | updateLead id now body =>
    obtain ⟨hLegal, hArrived⟩ := received
    have hSourced := Body.sourced_data hArrived
    refine Mirrored.map ((mirrored_ask_getLead id).bind fun old hOld => ?_)
    refine (mirrored_checkData _ _ _ _).bind fun _ _ => ?_
    exact mirrored_ask_then ⟨hSourced, hOld.createdAt, hLegal⟩ fun _ => mirrored_report _ _ _
  | deleteProduct id =>
    refine Mirrored.map (mirrored_ask_then trivial fun _ => ?_)
    exact (mirrored_count _).bind fun _ _ => mirrored_note _
  | deleteLead id =>
    refine Mirrored.map (mirrored_ask_then trivial fun _ => ?_)
    exact (mirrored_count _).bind fun _ _ => mirrored_note _
  | getProduct id => exact (mirrored_ask_getProduct id).forget.map
  | getLead id => exact (mirrored_ask_getLead id).forget.map
  | listProducts query =>
    exact Mirrored.map (mirrored_ask_then trivial fun _ =>
      mirrored_ask_then trivial fun _ => mirrored_pure trivial)
  | listLeads query =>
    exact Mirrored.map (mirrored_ask_then trivial fun _ =>
      mirrored_ask_then trivial fun _ => mirrored_pure trivial)
  | validateData productId body => exact (mirrored_checkData _ _ _ _).map
  | checkSchema body =>
    exact Mirrored.map ((mirrored_checkDefinition _ _).bind fun _ _ => mirrored_note _)

end Operation

end Intake
