import Intake.Proofs.Accounts

/-! # Operations that take turns

Operations on one service run side by side and take turns in any order; a call to the store is one
turn. What they do to the records is told by their deeds, the calls that succeed: an operation
inserts or removes what its request says, at most once, and puts back only what it has found.
-/

namespace Intake

structure Key where
  kind : RecordKind
  id : String
deriving DecidableEq

/-- What a record has from its insertion on, whatever updates do to it. -/
structure Birth extends Key where
  productId? : Option String
  createdAt : Instant
deriving DecidableEq

def Product.birth (p : Product) : Birth := ⟨⟨.product, p.id⟩, none, p.createdAt⟩

def Lead.birth (l : Lead) : Birth := ⟨⟨.lead, l.id⟩, some l.productId, l.createdAt⟩

/-- A call to the store that has succeeded, as far as it is about one record. -/
inductive Deed where
  | inserted (b : Birth)
  | found (b : Birth)
  | replaced (b : Birth)
  | removed (k : Key)
deriving DecidableEq

namespace StoreCall

def deedOf? : {β : Type} → StoreCall β → β → Option Deed
  | _, insertProduct p, _ => some (.inserted p.birth)
  | _, getProduct _, p => some (.found p.birth)
  | _, updateProduct p, _ => some (.replaced p.birth)
  | _, deleteProduct id, _ => some (.removed ⟨.product, id⟩)
  | _, insertLead l, _ => some (.inserted l.birth)
  | _, getLead _, l => some (.found l.birth)
  | _, updateLead l, _ => some (.replaced l.birth)
  | _, deleteLead id, _ => some (.removed ⟨.lead, id⟩)
  | _, listProducts _, _ | _, countProducts, _ | _, listLeads _ _, _ | _, countLeads _, _ => none

def deed? {β : Type} (c : StoreCall β) : Except StorageError β → Option Deed
  | .ok b => c.deedOf? b
  | .error _ => none

end StoreCall

/-- The one deed by which a request makes a record or takes one away. -/
def Request.deed? : Request → Option Deed
  | createProduct id now _ => some (.inserted ⟨⟨.product, id⟩, none, now⟩)
  | deleteProduct id => some (.removed ⟨.product, id⟩)
  | createLead id now body => some (.inserted ⟨⟨.lead, id⟩, some body.productId, now⟩)
  | deleteLead id => some (.removed ⟨.lead, id⟩)
  | _ => none

namespace Task

structure Turned (α : Type) where
  task : Task α
  service : Service
  deed? : Option Deed := none

variable {α β : Type}

/-- One turn; a task that is done lets it pass. -/
def step : Task α → Service → Turned α
  | done a, s => { task := done a, service := s }
  | call c next, s =>
    let (r, store) := Store.perform c s.store
    { task := next r, service := { s with store := store }, deed? := c.deed? r }
  | note _ next, s => { task := next, service := s }
  | count c next, s => { task := next, service := { s with counters := s.counters.bump c } }
  | read next, s => { task := next s.counters, service := s }

end Task

/-- The deeds in their order, each with the number of the operation that has done it. -/
abbrev History := List (Nat × Deed)

/-- Operations that share a service, and what they have done so far. -/
structure Crowd where
  service : Service
  tasks : List (Task (Except ServiceError Answer))
  history : History := []

namespace Crowd

def start [Pattern.Engine] (policy : Policy) (s : Service) (requests : List Request) : Crowd where
  service := s
  tasks := requests.map fun r => (r.operation policy).run

def turn (c : Crowd) (i : Nat) : Crowd :=
  match c.tasks[i]? with
  | none => c
  | some t =>
    let turned := t.step c.service
    { service := turned.service
      tasks := c.tasks.set i turned.task
      history := c.history ++ turned.deed?.toList.map fun d => (i, d) }

def run (c : Crowd) (schedule : List Nat) : Crowd := schedule.foldl turn c

/-- How the operation with this number has ended, if it has. -/
def result? (c : Crowd) (i : Nat) : Option (Except ServiceError Answer) :=
  match c.tasks[i]? with
  | some (.done result) => some result
  | _ => none

theorem run_append (c : Crowd) (first later : List Nat) :
    c.run (first ++ later) = (c.run first).run later :=
  List.foldl_append

theorem turn_of_task {c : Crowd} {i : Nat} {t : Task (Except ServiceError Answer)}
    (h : c.tasks[i]? = some t) :
    c.turn i =
      { service := (t.step c.service).service
        tasks := c.tasks.set i (t.step c.service).task
        history := c.history ++ (t.step c.service).deed?.toList.map fun d => (i, d) } := by
  rw [turn, h]

theorem task_turn {c : Crowd} {i : Nat} {t : Task (Except ServiceError Answer)}
    (h : c.tasks[i]? = some t) : (c.turn i).tasks[i]? = some (t.step c.service).task := by
  rw [turn_of_task h]
  exact List.getElem?_set_self (List.getElem?_eq_some_iff.mp h).1

theorem service_turn {c : Crowd} {i : Nat} {t : Task (Except ServiceError Answer)}
    (h : c.tasks[i]? = some t) : (c.turn i).service = (t.step c.service).service := by
  rw [turn_of_task h]

/-- If the operation takes its turns in a row, it comes to what a run comes to. -/
def EndsAlone (c : Crowd) (i : Nat) (ran : Ran (Except ServiceError Answer)) : Prop :=
  ∃ n, (c.run (List.replicate n i)).service = ran.service ∧
    (c.run (List.replicate n i)).result? i = some ran.result

theorem EndsAlone.of_turn {c : Crowd} {i : Nat} {ran : Ran (Except ServiceError Answer)}
    (h : (c.turn i).EndsAlone i ran) : c.EndsAlone i ran := by
  obtain ⟨n, hEnds⟩ := h
  exact ⟨n + 1, hEnds⟩

theorem endsAlone_run {c : Crowd} {i : Nat} {t : Task (Except ServiceError Answer)}
    (h : c.tasks[i]? = some t) : c.EndsAlone i (t.run c.service) := by
  -- A turn leaves what a run goes on with, on the service that it goes on from.
  induction t generalizing c with
  | done a =>
    refine ⟨0, rfl, ?_⟩
    rw [List.replicate_zero, run, List.foldl_nil, result?, h]
    rfl
  | call call next ih =>
    apply EndsAlone.of_turn
    have hNext := ih _ (task_turn h)
    rwa [service_turn h] at hNext
  | note n next ih =>
    apply EndsAlone.of_turn
    have hNext := ih (task_turn h)
    rwa [service_turn h] at hNext
  | count counter next ih =>
    apply EndsAlone.of_turn
    have hNext := ih (task_turn h)
    rwa [service_turn h] at hNext
  | read next ih =>
    apply EndsAlone.of_turn
    have hNext := ih _ (task_turn h)
    rwa [service_turn h] at hNext

/-- A request whose operation takes its turns in a row is served. -/
theorem endsAlone_serve [Pattern.Engine] (policy : Policy) (s : Service) {requests : List Request}
    {i : Nat} {r : Request} (asked : requests[i]? = some r) :
    (start policy s requests).EndsAlone i (s.serve policy r) := by
  have hTask : (start policy s requests).tasks[i]? = some (r.operation policy).run := by
    rw [start, List.getElem?_map, asked, Option.map_some]
  exact endsAlone_run hTask

end Crowd

/-- The deeds that a request allows an operation that has done some already. -/
def Request.Allows (r : Request) (past : List Deed) : Deed → Prop
  | .inserted b => r.deed? = some (.inserted b) ∧ .inserted b ∉ past
  | .found _ => True
  | .replaced b => .found b ∈ past
  | .removed k => r.deed? = some (.removed k) ∧ .removed k ∉ past

/-- The deed of a request is done if and only if the operation succeeds. -/
def Request.Settles (r : Request) (past : List Deed) (result : Except ServiceError Answer) : Prop :=
  ∀ d, r.deed? = some d → (d ∈ past ↔ ∃ a, result = .ok a)

namespace Task

variable {r : Request} {α β : Type}

/-- A task does only what a request allows, whatever the store answers, and ends with deeds and a
result of which `ends` holds. -/
def Keeps (r : Request) (ends : List Deed → α → Prop) : Task α → List Deed → Prop
  | done a, past => ends past a
  | call c next, past => ∀ answer,
      (∀ d, c.deed? answer = some d → r.Allows past d) ∧
        (next answer).Keeps r ends (past ++ (c.deed? answer).toList)
  | note _ next, past => next.Keeps r ends past
  | count _ next, past => next.Keeps r ends past
  | read next, past => ∀ c, (next c).Keeps r ends past

theorem Keeps.bind {t : Task α} {f : α → Task β} {ends : List Deed → β → Prop} {past : List Deed}
    (h : t.Keeps r (fun past a => (f a).Keeps r ends past) past) :
    (t.bind f).Keeps r ends past := by
  -- What the first task has done is past for the second.
  induction t generalizing past with
  | done a => exact h
  | call c next ih =>
    intro answer
    exact ⟨(h answer).1, ih answer (h answer).2⟩
  | note n next ih => exact ih h
  | count c next ih => exact ih h
  | read next ih =>
    intro c
    exact ih c (h c)

theorem Keeps.mono {t : Task α} {ends ends' : List Deed → α → Prop} {past : List Deed}
    (le : ∀ past a, ends past a → ends' past a) (h : t.Keeps r ends past) :
    t.Keeps r ends' past := by
  induction t generalizing past with
  | done a => exact le past a h
  | call c next ih =>
    intro answer
    exact ⟨(h answer).1, ih answer (h answer).2⟩
  | note n next ih => exact ih h
  | count c next ih => exact ih h
  | read next ih =>
    intro c
    exact ih c (h c)

theorem Keeps.step {t : Task α} {ends : List Deed → α → Prop} {past : List Deed}
    (h : t.Keeps r ends past) (s : Service) :
    (∀ d, (t.step s).deed? = some d → r.Allows past d) ∧
      (t.step s).task.Keeps r ends (past ++ (t.step s).deed?.toList) := by
  cases t with
  | call c next => exact h (Store.perform c s.store).1
  | done a => exact ⟨nofun, (List.append_nil past).symm ▸ h⟩
  | note n next => exact ⟨nofun, (List.append_nil past).symm ▸ h⟩
  | count c next => exact ⟨nofun, (List.append_nil past).symm ▸ h⟩
  | read next => exact ⟨nofun, (List.append_nil past).symm ▸ h s.counters⟩

end Task

namespace Operation

variable {r : Request} {α β : Type} {past : List Deed} {ok : List Deed → α → Prop}

def Undone (r : Request) (past : List Deed) : Prop := ∀ d, r.deed? = some d → d ∉ past

theorem Undone.found (h : Undone r past) (b : Birth) : Undone r (past ++ [.found b]) := by
  intro d hDeed hMem
  rcases List.mem_append.mp hMem with hPast | hFound
  · exact h d hDeed hPast
  · rw [List.mem_singleton.mp hFound] at hDeed
    cases r <;> cases hDeed

/-- An operation does only what a request allows and leaves its deed undone if it fails. -/
def Keeps (r : Request) (ok : List Deed → α → Prop) (op : Operation α) (past : List Deed) : Prop :=
  Task.Keeps r (fun past result =>
    match result with
    | .ok a => ok past a
    | .error _ => Undone r past) op.run past

theorem Keeps.bind {op : Operation α} {f : α → Operation β} {ok : List Deed → β → Prop}
    (h : op.Keeps r (fun past a => (f a).Keeps r ok past) past) : (op >>= f).Keeps r ok past := by
  refine Task.Keeps.bind (f := ExceptT.bindCont f) (Task.Keeps.mono ?_ h)
  intro past result hResult
  cases result with
  | ok a => exact hResult
  | error e => exact hResult

theorem Keeps.map (f : α → β) {op : Operation α} {ok : List Deed → β → Prop}
    (h : op.Keeps r (fun past a => ok past (f a)) past) : (f <$> op).Keeps r ok past := by
  rw [← bind_pure_comp]
  exact Keeps.bind h

theorem Keeps.note {n : Notice} {f : Unit → Operation α} (h : (f ()).Keeps r ok past) :
    (note n >>= f).Keeps r ok past :=
  Keeps.bind h

theorem Keeps.count {c : Counter} {f : Unit → Operation α} (h : (f ()).Keeps r ok past) :
    (count c >>= f).Keeps r ok past :=
  Keeps.bind h

theorem keeps_storageFailure (undone : Undone r past) (e : StorageError) :
    (storageFailure e : Operation α).Keeps r ok past := by
  unfold storageFailure
  cases e.isNotFound with
  | true => exact undone
  | false => exact Keeps.note undone

theorem keeps_ask {c : StoreCall α} (undone : Undone r past)
    (allowed : ∀ a d, c.deedOf? a = some d → r.Allows past d)
    (done : ∀ a, ok (past ++ (c.deedOf? a).toList) a) : (ask c).Keeps r ok past := by
  apply Keeps.bind
  intro answer
  cases answer with
  | ok a => exact ⟨allowed a, done a⟩
  | error e =>
    refine ⟨nofun, ?_⟩
    rw [StoreCall.deed?, Option.toList_none, List.append_nil]
    exact keeps_storageFailure undone e

theorem keeps_checkDefinition [Pattern.Engine] {gate : Gate} {definition : Value}
    {ok : List Deed → Unit → Prop} (undone : Undone r past) (passed : ok past ()) :
    (checkDefinition gate definition).Keeps r ok past := by
  rw [checkDefinition]
  cases Schema.ofDefinition definition with
  | ok schema => exact passed
  | error e => exact Keeps.count (Keeps.note undone)

theorem keeps_noteAll {ok : List Deed → Unit → Prop} (h : ok past ())
    (notices : List DefinitionNotice) : (noteAll notices).Keeps r ok past := by
  induction notices with
  | nil => exact h
  | cons n rest ih => exact Keeps.note ih

theorem keeps_checkData [Pattern.Engine] {rules : Rules} {gate : Gate} {productId : String}
    {data : Value} {ok : List Deed → Unit → Prop} (undone : Undone r past)
    (passed : ∀ b, ok (past ++ [.found b]) ()) :
    (checkData rules gate productId data).Keeps r ok past := by
  refine Keeps.bind (keeps_ask undone ?_ fun product => ?_)
  · rintro product d ⟨⟩
    trivial
  have hPassed := passed product.birth
  have hUndone := undone.found product.birth
  cases Schema.ofStored product.schema with
  | mk schema notices =>
    refine Keeps.bind (keeps_noteAll ?_ notices)
    cases schema.validate rules data with
    | ok =>
      apply Keeps.count
      cases gate with
      | write => exact hPassed
      | dryRun => exact hPassed
    | error f =>
      apply Keeps.count
      apply Keeps.note
      exact hUndone

def Done (r : Request) (past : List Deed) : Prop := ∀ d, r.deed? = some d → d ∈ past

theorem keeps_report {counter : Counter} {event : Event} (a : α) (h : ok past a) :
    (do count counter; note (.done event); pure a : Operation α).Keeps r ok past :=
  Keeps.count (Keeps.note h)

theorem keeps_request [Pattern.Engine] (policy : Policy) (r : Request) :
    (r.operation policy).Keeps r (fun past _ => Done r past) [] := by
  have hUndone : Undone r [] := fun _ _ => List.not_mem_nil
  cases r with
  | createProduct id now body =>
    apply Keeps.map
    refine Keeps.bind (keeps_checkDefinition hUndone ?_)
    refine Keeps.bind (keeps_ask hUndone ?_ fun _ => keeps_report _ ?_)
    · rintro _ d ⟨⟩
      exact ⟨rfl, List.not_mem_nil⟩
    · rintro d ⟨⟩
      exact List.mem_singleton_self _
  | updateProduct id now body =>
    apply Keeps.map
    refine Keeps.bind (keeps_checkDefinition hUndone ?_)
    refine Keeps.bind (keeps_ask hUndone ?_ fun old => ?_)
    · rintro old d ⟨⟩
      trivial
    refine Keeps.bind (keeps_ask (hUndone.found old.birth) ?_ fun _ => keeps_report _ ?_)
    · rintro _ d ⟨⟩
      exact List.mem_singleton_self _
    · exact nofun
  | deleteProduct id =>
    apply Keeps.map
    refine Keeps.bind (keeps_ask hUndone ?_ fun _ => keeps_report () ?_)
    · rintro _ d ⟨⟩
      exact ⟨rfl, List.not_mem_nil⟩
    · rintro d ⟨⟩
      exact List.mem_singleton_self _
  | createLead id now body =>
    apply Keeps.map
    refine Keeps.bind (keeps_checkData hUndone fun b => ?_)
    refine Keeps.bind (keeps_ask (hUndone.found b) ?_ fun _ => keeps_report _ ?_)
    · rintro _ d ⟨⟩
      exact ⟨rfl, hUndone.found b _ rfl⟩
    · rintro d ⟨⟩
      exact List.mem_append_right _ (List.mem_singleton_self _)
  | updateLead id now body =>
    apply Keeps.map
    refine Keeps.bind (keeps_ask hUndone ?_ fun old => ?_)
    · rintro old d ⟨⟩
      trivial
    have hFound := hUndone.found old.birth
    refine Keeps.bind (keeps_checkData hFound fun b => ?_)
    refine Keeps.bind (keeps_ask (hFound.found b) ?_ fun _ => keeps_report _ ?_)
    · rintro _ d ⟨⟩
      exact List.mem_append_left _ (List.mem_singleton_self _)
    · exact nofun
  | deleteLead id =>
    apply Keeps.map
    refine Keeps.bind (keeps_ask hUndone ?_ fun _ => keeps_report () ?_)
    · rintro _ d ⟨⟩
      exact ⟨rfl, List.not_mem_nil⟩
    · rintro d ⟨⟩
      exact List.mem_singleton_self _
  | getProduct id =>
    apply Keeps.map
    refine keeps_ask hUndone ?_ fun _ => nofun
    rintro product d ⟨⟩
    trivial
  | getLead id =>
    apply Keeps.map
    refine keeps_ask hUndone ?_ fun _ => nofun
    rintro lead d ⟨⟩
    trivial
  | listProducts query =>
    apply Keeps.map
    refine Keeps.bind (keeps_ask hUndone nofun fun rows => ?_)
    exact Keeps.bind (keeps_ask hUndone nofun fun total => nofun)
  | listLeads query =>
    apply Keeps.map
    refine Keeps.bind (keeps_ask hUndone nofun fun rows => ?_)
    exact Keeps.bind (keeps_ask hUndone nofun fun total => nofun)
  | validateData productId body =>
    apply Keeps.map
    exact keeps_checkData hUndone fun b => nofun
  | checkSchema body =>
    have hDone : Done (.checkSchema body) [] := nofun
    apply Keeps.map
    exact Keeps.bind (keeps_checkDefinition hUndone hDone)

/-- An operation does only what its request allows; it does the deed of the request if and only if
it succeeds. -/
theorem keeps_operation [Pattern.Engine] (policy : Policy) (r : Request) :
    Task.Keeps r r.Settles (r.operation policy).run [] := by
  refine Task.Keeps.mono ?_ (keeps_request policy r)
  intro past result h d hDeed
  cases result with
  | ok a => simp [h d hDeed]
  | error e => simp [h d hDeed]

end Operation
end Intake
