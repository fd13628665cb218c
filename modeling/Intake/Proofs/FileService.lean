import Intake.Proofs.Mirroring

/-! # Services on a folder

A service that was opened on a folder without records answers as one without a disk does. After
every request the record files are those of its records, and opening the folder again gives the
same records.
-/

namespace Intake

open Disk Files

namespace Files

variable {α : Type} [Record α] {d : Disk} {root : String} {p : Place} {rows : List α}
  {filed : α → α} {lasting : α → Prop}

/-- There is one record file for each row, which has its name, and no other one. It is read as what
becomes of the row in a text, which is the row itself if that lasts. -/
structure Image (α : Type) [Record α] (filed : α → α) (lasting : α → Prop) (d : Disk)
    (root : String) (rows : List α) : Prop where
  names : ∃ names, d.list (folderPath (Record.kind α) root) = .ok names ∧
    (names.filter isRecordName).Perm (rows.map fun r => fileName (Record.id r))
  distinct : (rows.map fun r => fileName (Record.id r)).Nodup
  contents : ∀ r ∈ rows,
    readRecord d (recordPath (Record.kind α) root (Record.id r)) = .ok (filed r)
  unchanged : ∀ r ∈ rows, lasting r → filed r = r

theorem Holds.image (h : Holds .written d root p rows) (distinct : (rows.map Record.id).Nodup)
    (ids : ∀ r, Record.id (filed r) = Record.id r)
    (reads : ∀ r ∈ rows, Record.read (Record.fileText r) = .ok (filed r))
    (unchanged : ∀ r ∈ rows, lasting r → filed r = r) : Image α filed lasting d root rows where
  names := by
    refine ⟨_, list_eq_ok_iff.mpr ⟨p, h.ready.nameable, h.ready.folderAt, rfl⟩, ?_⟩
    exact ((List.mergeSort_perm _ _).filter _).trans h.names
  distinct := by
    have hNames : (rows.map fun r => fileName (Record.id r)) =
        (rows.map Record.id).map fileName := by simp
    rw [hNames]
    exact distinct.map fun _ _ => fileName_injective
  contents r hMem := by
    have hFiled := (h.reread ids reads).each (filed r) (List.mem_map_of_mem hMem)
    rw [← ids r]
    exact (filed_iff_readRecord h.ready hFiled.plain).mp hFiled
  unchanged := unchanged

end Files

/-- The same table with other records under the same ids. -/
def Table.map {α : Type} [Record α] (t : Table α) (f : α → α)
    (ids : ∀ r, Record.id (f r) = Record.id r) : Table α where
  rows := t.rows.map f
  distinct := by
    rw [List.map_map]
    simpa only [Function.comp_def, ids] using t.distinct

theorem Table.map_eq_self {α : Type} [Record α] {t : Table α} {f : α → α}
    {ids : ∀ r, Record.id (f r) = Record.id r} (h : ∀ r ∈ t.rows, f r = r) :
    t.map f ids = t := by
  obtain ⟨rows, distinct⟩ := t
  simp only [Table.map, Table.mk.injEq]
  exact (List.map_congr_left h).trans (List.map_id _)

namespace Store

/-- A store with what its records are read as from their files. -/
def filed (s : Store) : Store :=
  { s with tables := ⟨s.tables.products.map Product.filed Product.id_filed,
                      s.tables.leads.map Lead.filed Lead.id_filed⟩ }

variable {s : Store} {root : String} {q : Place} {d : Disk}

theorem filed_eq (products : ∀ p ∈ s.tables.products.rows, p.filed = p)
    (leads : ∀ l ∈ s.tables.leads.rows, l.filed = l) : s.filed = s := by
  rw [filed, Table.map_eq_self products, Table.map_eq_self leads]

/-- What was written is opened as what it is read as. -/
theorem OnDisk.openAt_filed (h : OnDisk .written s root q d)
    (products : ∀ p ∈ s.tables.products.rows, p.Sourced)
    (leads : ∀ l ∈ s.tables.leads.rows, l.Sourced) :
    ∃ again, Store.openAt root d = (.ok again, d) ∧
      SameInOrder Product s.filed again ∧ SameInOrder Lead s.filed again := by
  have hFiled : OnDisk .readable s.filed root q d :=
    ⟨h.backing,
      h.products.reread Product.id_filed fun p hMem => Product.read_fileText (products p hMem),
      h.leads.reread Lead.id_filed fun l hMem => Lead.read_fileText (leads l hMem)⟩
  exact hFiled.openAt

end Store

namespace Service

open ServiceError

/-- What a service answers to one request after the other, and what it logs. -/
def answers [Pattern.Engine] (policy : Policy) (s : Service) :
    List Request → List (Except ServiceError Answer × List Notice)
  | [] => []
  | r :: rest =>
    let ran := s.serve policy r
    (ran.result, ran.log) :: answers policy ran.service rest

theorem answers_append [Pattern.Engine] (policy : Policy) (s : Service)
    (first second : List Request) :
    s.answers policy (first ++ second) =
      s.answers policy first ++ (s.after policy first).answers policy second := by
  induction first generalizing s with
  | nil => rfl
  | cons r rest ih => exact congrArg (List.cons _) (ih _)

variable {policy : Policy} {root : String} {q : Place}

theorem faithful_of_openAt_empty {d d₀ : Disk} {s : Store}
    (opened : Store.openAt root d = (.ok s, d₀)) (empty : s.tables = {}) :
    ∃ q, s.Faithful root q := by
  obtain ⟨q, hOnDisk⟩ := Store.onDisk_of_openAt_empty opened empty .written
  refine ⟨q, ⟨d₀, hOnDisk⟩, ?_, ?_⟩ <;> rw [empty] <;> nofun

/-- A run of requests on disk is one without a disk, and ends on disk. -/
theorem answers_inMemory [Pattern.Engine] {s : Service} {requests : List Request}
    (faithful : s.store.Faithful root q) (received : ∀ r ∈ requests, r.Received)
    (undisturbed : ∀ answer ∈ s.answers policy requests, Undisturbed answer.1) :
    s.inMemory.answers policy requests = s.answers policy requests ∧
      s.inMemory.after policy requests = (s.after policy requests).inMemory ∧
        (s.after policy requests).store.Faithful root q := by
  -- What one request hands on to the next is that the store is on disk.
  induction requests generalizing s with
  | nil => exact ⟨rfl, rfl, faithful⟩
  | cons r rest ih =>
    obtain ⟨hReceived, hRest⟩ := List.forall_mem_cons.mp received
    rw [answers] at undisturbed
    obtain ⟨hHere, hLater⟩ := List.forall_mem_cons.mp undisturbed
    obtain ⟨hSame, hThen, -⟩ :=
      Operation.mirrored_operation policy hReceived s faithful hHere
    obtain ⟨hAnswers, hAfter, hFaithful⟩ := ih hThen hRest hLater
    have hServe : s.inMemory.serve policy r = (s.serve policy r).inMemory := hSame
    refine ⟨?_, ?_, hFaithful⟩
    · rw [answers, answers, hServe]
      exact congrArg (List.cons _) hAnswers
    · rw [after, List.foldl_cons, hServe]
      exact hAfter

/-- A service is opened on a folder without records, and the disk does not fail it. Then it answers
every request as a service does that has no disk. After every request there is one file for each
record, named for it, and no other record file. If the folder is opened again then, it is left as it
is, and there are as many records, listed by time of creation and id: each is what its file is read
as. That is the record itself, if its dates lie in years of four digits and its doubles are read
back from their texts. -/
theorem on_folder_as_in_memory [Pattern.Engine] (policy : Policy) {root : String} {d d₀ : Disk}
    {s : Store} (opened : Store.openAt root d = (.ok s, d₀)) (empty : s.tables = {})
    (requests : List Request) (received : ∀ r ∈ requests, r.Received)
    (undisturbed : ∀ answer ∈ ({ store := s } : Service).answers policy requests,
      Undisturbed answer.1) :
    ({ store := s } : Service).answers policy requests =
        ({} : Service).answers policy requests ∧
      (({ store := s } : Service).after policy requests).inMemory =
        ({} : Service).after policy requests ∧
      ∀ done later, done ++ later = requests →
        let store := (({ store := s } : Service).after policy done).store
        ∃ d', store.backing? = some { root := root, disk := d' } ∧
          Image Product Product.filed (·.schema.Lasting) d' root store.tables.products.rows ∧
          Image Lead Lead.filed (·.data.Lasting) d' root store.tables.leads.rows ∧
          (∃ again, Store.openAt root d' = (.ok again, d') ∧
            Store.SameInOrder Product store.filed again ∧
            Store.SameInOrder Lead store.filed again) ∧
          ((∀ p ∈ store.tables.products.rows, p.schema.Lasting) →
            (∀ l ∈ store.tables.leads.rows, l.data.Lasting) → store.filed = store) := by
  obtain ⟨q, hFaithful⟩ := faithful_of_openAt_empty opened empty
  have hMemory : ({ store := s } : Service).inMemory = {} := by
    unfold inMemory Store.inMemory
    rw [empty]
  obtain ⟨hAnswers, hAfter, -⟩ :=
    answers_inMemory (s := { store := s }) hFaithful received undisturbed
  rw [hMemory] at hAnswers hAfter
  refine ⟨hAnswers.symm, hAfter.symm, ?_⟩
  rintro done later rfl
  intro store
  rw [answers_append] at undisturbed
  obtain ⟨-, -, hDone⟩ := answers_inMemory (s := { store := s }) hFaithful
    (fun r hr => received r (List.mem_append_left _ hr))
    fun answer hMem => undisturbed answer (List.mem_append_left _ hMem)
  obtain ⟨d', hWritten⟩ := hDone.onDisk
  have hProduct (p : Product) (hMem : p ∈ store.tables.products.rows)
      (lasting : p.schema.Lasting) : p.filed = p :=
    Product.Storable.filed_eq ⟨hDone.products p hMem, lasting⟩
  have hLead (l : Lead) (hMem : l ∈ store.tables.leads.rows) (lasting : l.data.Lasting) :
      l.filed = l :=
    Lead.Storable.filed_eq ⟨hDone.leads l hMem, lasting⟩
  have hProducts : Image Product Product.filed (·.schema.Lasting) d' root
      store.tables.products.rows :=
    hWritten.products.image store.tables.products.distinct Product.id_filed
      (fun p hMem => Product.read_fileText (hDone.products p hMem)) hProduct
  have hLeads : Image Lead Lead.filed (·.data.Lasting) d' root store.tables.leads.rows :=
    hWritten.leads.image store.tables.leads.distinct Lead.id_filed
      (fun l hMem => Lead.read_fileText (hDone.leads l hMem)) hLead
  exact ⟨d', hWritten.backing, hProducts, hLeads,
    hWritten.openAt_filed hDone.products hDone.leads, fun products leads =>
      Store.filed_eq (fun p hMem => hProduct p hMem (products p hMem))
        fun l hMem => hLead l hMem (leads l hMem)⟩

theorem undisturbed_of_isSome {β : Type} {result : Except ServiceError β}
    (h : result.toOption.isSome = true) : Undisturbed result := by
  rintro task path cause rfl
  cases h

/-- A folder without records. -/
def newFolder : Disk where
  entries := [(["data"], .folder), (["data", "products"], .folder), (["data", "leads"], .folder)]

/-- The store that is opened on it. -/
def onNewFolder : Store := ⟨{}, some { root := "data", disk := newFolder }⟩

theorem openAt_newFolder : Store.openAt "data" newFolder = (.ok onNewFolder, newFolder) := by
  refine Store.openAt_of_list_nil (fun kind => ?_) fun kind => ?_ <;> cases kind <;> decide +kernel

theorem lasting_one_tenth : Json.Lasting (.ofRatio false 1 10) :=
  Json.lasting_of_few_digits (by decide +kernel) (by decide +kernel) (by decide +kernel)

theorem arrived_loans : Body.Arrived (⟨"Loans", "", .object []⟩ : ProductRequest) := by
  have hSchema : (Json.obj []).Received :=
    ⟨.obj (List.forall_mem_nil _), .obj (List.forall_mem_nil _) List.nodup_nil⟩
  exact ⟨false, _, Body.read_compact_product hSchema rfl false "Loans" ""⟩

/-- A product and a lead are added to a new folder, the lead is changed and the product deleted. -/
theorem on_folder_as_in_memory_four_requests :
    let p : String := "0123456789abcdef0123456789abcdef"
    let l : String := "fedcba9876543210fedcba9876543210"
    let changed : Value := .object [("rate", .float (.ofRatio false 1 10))]
    let requests : List Request :=
      [.createProduct p ⟨0, 0⟩ ⟨"Loans", "", .object []⟩,
        .createLead l ⟨1, 0⟩ ⟨p, .object [("name", .text "Jane")]⟩,
        .updateLead l ⟨2, 0⟩ ⟨changed⟩, .deleteProduct p]
    let begun : Service := { store := onNewFolder }
    let store := (begun.after {} requests).store
    Store.openAt "data" newFolder = (.ok onNewFolder, newFolder) ∧ onNewFolder.tables = {} ∧
      (∀ r ∈ requests, r.Received) ∧
      (∀ answer ∈ begun.answers {} requests, Undisturbed answer.1) ∧
      begun.answers {} requests = ({} : Service).answers {} requests ∧
      store.tables.leads.rows = [⟨l, p, changed, ⟨1, 0⟩, ⟨2, 0⟩⟩] ∧
      (∀ p ∈ store.tables.products.rows, p.schema.Lasting) ∧
      (∀ l ∈ store.tables.leads.rows, l.data.Lasting) ∧
      ∃ d', store.backing? = some { root := "data", disk := d' } ∧
        Image Product Product.filed (·.schema.Lasting) d' "data" store.tables.products.rows ∧
        Image Lead Lead.filed (·.data.Lasting) d' "data" store.tables.leads.rows ∧
        ∃ again, Store.openAt "data" d' = (.ok again, d') ∧
          Store.SameInOrder Product store again ∧ Store.SameInOrder Lead store again := by
  intro p l changed requests begun store
  have hLead : Body.Arrived (⟨p, .object [("name", .text "Jane")]⟩ : LeadRequest) := by
    have hReceived : (Json.obj [("name", .str "Jane")]).Received :=
      ⟨.obj (List.forall_mem_singleton.mpr (.str _)),
        .obj (List.forall_mem_singleton.mpr (.str _)) (List.nodup_singleton _)⟩
    exact ⟨false, _, Body.read_compact_lead hReceived rfl false p⟩
  have hData : Body.Arrived (⟨changed⟩ : DataRequest) := by
    have hReceived : (Json.obj [("rate", .float (.ofRatio false 1 10))]).Received :=
      ⟨.obj (List.forall_mem_singleton.mpr (.float (by decide +kernel))),
        .obj (List.forall_mem_singleton.mpr (.float _)) (List.nodup_singleton _)⟩
    refine ⟨false, _, Body.read_compact_data hReceived ?_ false⟩
    simp only [Json.reparsed, Json.reparsedMembers, lasting_one_tenth.reparsedDouble]
  have hReceived : ∀ r ∈ requests, r.Received := by
    simp only [requests, List.forall_mem_cons]
    exact ⟨⟨⟨by decide, by decide⟩, Instant.isLegal_of_inRange (by decide), arrived_loans⟩,
      ⟨⟨by decide, by decide⟩, Instant.isLegal_of_inRange (by decide), hLead⟩,
      ⟨Instant.isLegal_of_inRange (by decide), hData⟩, trivial, List.forall_mem_nil _⟩
  have hUndisturbed : ∀ answer ∈ begun.answers {} requests, Undisturbed answer.1 := by
    have hAll : ((begun.answers {} requests).all
        fun answer => answer.1.toOption.isSome) = true := by decide +kernel
    exact fun answer hMem => undisturbed_of_isSome (List.all_eq_true.mp hAll answer hMem)
  have hRows : (({} : Service).after {} requests).store.tables.products.rows = [] ∧
      (({} : Service).after {} requests).store.tables.leads.rows =
        [⟨l, p, changed, ⟨1, 0⟩, ⟨2, 0⟩⟩] := by
    simp only [requests, l, p]
    constructor <;> decide +kernel
  clear_value requests
  obtain ⟨hSame, hAfter, hDisk⟩ :=
    on_folder_as_in_memory {} openAt_newFolder rfl requests hReceived hUndisturbed
  have hNone : store.tables.products.rows = [] :=
    (congrArg (fun ended => ended.store.tables.products.rows) hAfter).trans hRows.1
  have hOne : store.tables.leads.rows = [⟨l, p, changed, ⟨1, 0⟩, ⟨2, 0⟩⟩] :=
    (congrArg (fun ended => ended.store.tables.leads.rows) hAfter).trans hRows.2
  have hProducts : ∀ p ∈ store.tables.products.rows, p.schema.Lasting := by
    rw [hNone]
    exact fun p hMem => absurd hMem List.not_mem_nil
  have hLeads : ∀ l ∈ store.tables.leads.rows, l.data.Lasting := by
    rw [hOne]
    refine List.forall_mem_singleton.mpr ⟨fun t hDate => ?_, ?_⟩
    · obtain ⟨m, hMem, hDate⟩ := Value.hasDate_object_iff.mp hDate
      rw [List.mem_singleton.mp hMem] at hDate
      cases hDate
    · exact Value.doublesLast_object
        (List.forall_mem_singleton.mpr (Value.doublesLast_float lasting_one_tenth))
  obtain ⟨d', hBacking, hProductFiles, hLeadFiles, hAgain, hFiled⟩ :=
    hDisk requests [] (List.append_nil requests)
  rw [hFiled hProducts hLeads] at hAgain
  exact ⟨openAt_newFolder, rfl, hReceived, hUndisturbed, hSame, hOne, hProducts, hLeads, d',
    hBacking, hProductFiles, hLeadFiles, hAgain⟩

/-- A lead is shown with another double after its folder has been opened again. -/
theorem reopened_double_drifts :
    let p : String := "0123456789abcdef0123456789abcdef"
    let l : String := "fedcba9876543210fedcba9876543210"
    let rate : Double := .ofInt 10000000000000022528
    let next : Double := .ofInt 10000000000000024576
    let lead (rate : Double) : Lead := ⟨l, p, .object [("rate", .float rate)], ⟨1, 0⟩, ⟨1, 0⟩⟩
    let requests : List Request :=
      [.createProduct p ⟨0, 0⟩ ⟨"Loans", "", .object []⟩,
        .createLead l ⟨1, 0⟩ ⟨p, (lead rate).data⟩]
    let begun : Service := { store := onNewFolder }
    let store := (begun.after {} requests).store
    Store.openAt "data" newFolder = (.ok onNewFolder, newFolder) ∧ onNewFolder.tables = {} ∧
      (∀ r ∈ requests, r.Received) ∧
      (∀ answer ∈ begun.answers {} requests, Undisturbed answer.1) ∧
      store.get l = .ok (lead rate) ∧ rate ≠ next ∧
      ∃ d' again, store.backing? = some { root := "data", disk := d' } ∧
        Store.openAt "data" d' = (.ok again, d') ∧ again.get l = .ok (lead next) := by
  intro p l rate next lead requests begun store
  have hLead : Body.Arrived (⟨p, (lead rate).data⟩ : LeadRequest) := by
    have hReceived : (Json.obj [("rate", .int 10000000000000022528)]).Received :=
      ⟨.obj (List.forall_mem_singleton.mpr (.int (by decide) (by decide))),
        .obj (List.forall_mem_singleton.mpr (.int _)) (List.nodup_singleton _)⟩
    exact ⟨false, _, Body.read_compact_lead hReceived rfl false p⟩
  have hReceived : ∀ r ∈ requests, r.Received := by
    simp only [requests, List.forall_mem_cons]
    exact ⟨⟨⟨by decide, by decide⟩, Instant.isLegal_of_inRange (by decide), arrived_loans⟩,
      ⟨⟨by decide, by decide⟩, Instant.isLegal_of_inRange (by decide), hLead⟩,
      List.forall_mem_nil _⟩
  have hUndisturbed : ∀ answer ∈ begun.answers {} requests, Undisturbed answer.1 := by
    have hAll : ((begun.answers {} requests).all
        fun answer => answer.1.toOption.isSome) = true := by decide +kernel
    exact fun answer hMem => undisturbed_of_isSome (List.all_eq_true.mp hAll answer hMem)
  have hRows : (({} : Service).after {} requests).store.tables.leads.rows = [lead rate] := by
    decide +kernel
  have hFiled : (lead rate).filed = lead next := by
    have hFinite : rate.isFinite = true := by decide +kernel
    have hRate : (Value.float rate).toJson.reparsed = .float next := by
      rw [Value.toJson, if_pos hFinite, Json.reparsed, Json.reparsedDouble_drifts]
    have hData : (lead rate).data.toJson.reparsed =
        .obj [("rate", (Value.float rate).toJson.reparsed)] := rfl
    rw [Lead.filed, Value.filed, hData, hRate]
    rfl
  obtain ⟨q, hFaithful⟩ := faithful_of_openAt_empty openAt_newFolder rfl
  obtain ⟨-, hAfter, hThen⟩ :=
    answers_inMemory (s := begun) hFaithful hReceived hUndisturbed
  have hLeads : store.tables.leads.rows = [lead rate] :=
    (congrArg (fun ended => ended.store.tables.leads.rows) hAfter).symm.trans hRows
  have hMem : lead rate ∈ store.tables.leads.rows := hLeads ▸ List.mem_singleton_self _
  obtain ⟨d', hWritten⟩ := hThen.onDisk
  obtain ⟨again, hOpened, -, hSame⟩ := hWritten.openAt_filed hThen.products hThen.leads
  have hShown : store.get l = .ok (lead rate) :=
    Store.get_eq_ok_iff.mpr (Table.find?_eq_some_iff.mpr ⟨hMem, rfl⟩)
  have hShownAgain : again.get l = .ok (lead rate).filed :=
    (hSame.get l).trans
      (Store.get_eq_ok_iff.mpr (Table.find?_eq_some_iff.mpr ⟨List.mem_map_of_mem hMem, rfl⟩))
  exact ⟨openAt_newFolder, rfl, hReceived, hUndisturbed, hShown, by decide +kernel, d', again,
    hWritten.backing, hOpened, hFiled ▸ hShownAgain⟩

end Service

end Intake
