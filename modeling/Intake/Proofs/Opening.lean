import Intake.Proofs.StoresOnDisk

/-! # Opening and opening again

A store that has been opened is on disk if every record file is named for the id in it. Opening the
disk again leaves it as it is and gives the same records, in order.
-/

namespace Intake

open Disk Files

namespace Table

variable {α : Type} [Record α] {t u : Table α} {rows : List α}

theorem rows_of_ofRows (h : t.ofRows rows = .ok u) : u.rows = t.rows ++ rows := by
  induction rows generalizing t with
  | nil =>
    cases h
    rw [List.append_nil]
  | cons r rest ih =>
    rw [ofRows] at h
    split at h
    · next t' hInsert =>
      obtain ⟨-, hRows⟩ := insert?_eq_some_iff.mp hInsert
      rw [ih h, hRows, List.append_assoc, List.singleton_append]
    · cases h

theorem exists_ofRows_append (distinct : ((t.rows ++ rows).map Record.id).Nodup) :
    ∃ u, t.ofRows rows = .ok u := by
  induction rows generalizing t with
  | nil => exact ⟨t, rfl⟩
  | cons r rest ih =>
    have hFresh : t.contains (Record.id r) = false := by
      rw [List.map_append, List.nodup_append] at distinct
      simp only [contains, decide_eq_false_iff_not]
      intro hMem
      exact distinct.2.2 _ hMem _ (by simp) rfl
    obtain ⟨t', hInsert⟩ : ∃ t', t.insert? r = some t' := ⟨_, dif_pos hFresh⟩
    obtain ⟨-, hRows⟩ := insert?_eq_some_iff.mp hInsert
    rw [ofRows, hInsert]
    refine ih ?_
    rw [hRows, List.append_assoc, List.singleton_append]
    exact distinct

theorem exists_ofRows (distinct : (rows.map Record.id).Nodup) :
    ∃ u, (empty : Table α).ofRows rows = .ok u :=
  exists_ofRows_append distinct

end Table

namespace Files

/-- Every record file of a folder is named for the id of the record in it. -/
def NamedForIds (α : Type) [Record α] (d : Disk) (root : String) : Prop :=
  ∀ names, d.list (folderPath (Record.kind α) root) = .ok names →
    ∀ name ∈ names, isRecordName name = true →
      ∀ r : α, readRecord d (join (folderPath (Record.kind α) root) name) = .ok r →
        IsPlain (Record.id r) ∧ name = fileName (Record.id r)

variable {α : Type} [Record α] {d d' : Disk} {root : String} {rows : List α}

theorem parts_folderPath (kind : RecordKind) (root : String) :
    parts (folderPath kind root) = parts root ++ [kind.folder] :=
  parts_join root (isName_folder kind)

theorem parts_folderPath_ne_nil (kind : RecordKind) (root : String) :
    parts (folderPath kind root) ≠ [] := by
  rw [parts_folderPath]
  simp

/-- Names that are each that of a record are those of all records. -/
theorem names_of_forall₂ {names : List String} {found : List α} {P : α → Prop}
    (h : List.Forall₂ (fun name r => name = fileName (Record.id r) ∧ P r) names found) :
    names = found.map (fun r => fileName (Record.id r)) ∧ ∀ r ∈ found, P r := by
  induction h with
  | nil => exact ⟨rfl, nofun⟩
  | cons hHead _ ih =>
    obtain ⟨rfl, hHead⟩ := hHead
    obtain ⟨rfl, hTail⟩ := ih
    exact ⟨rfl, List.forall_mem_cons.mpr ⟨hHead, hTail⟩⟩

theorem load_eq_ok (h : load α d root = (.ok rows, d')) :
    d.makeFoldersAt (folderPath (Record.kind α) root) = (.ok (), d') ∧
      ∃ (names : List String) (found : List α),
        d'.list (folderPath (Record.kind α) root) = .ok names ∧
          readRecords d' (folderPath (Record.kind α) root) names = .ok found ∧
            sorted found = rows := by
  unfold load at h
  dsimp only at h
  split at h
  · cases h
  · next hMade =>
    split at h
    · cases h
    · next names hList =>
      obtain ⟨hRead, rfl⟩ := Prod.mk.inj h
      refine ⟨hMade, names, ?_⟩
      cases hRecords : (readRecords _ (folderPath (Record.kind α) root) names :
          Except StorageError (List α)) with
      | error e =>
        rw [hRecords] at hRead
        cases hRead
      | ok found =>
        rw [hRecords] at hRead
        exact ⟨found, hList, rfl, Except.ok.inj hRead⟩

/-- Records that are loaded from files with the names of their ids are those of the folder. -/
theorem holds_of_load (h : load α d root = (.ok rows, d')) (named : NamedForIds α d' root) :
    ∃ p, d.makeFoldersAt (folderPath (Record.kind α) root) = (.ok (), d') ∧
      Holds .readable d' root p rows := by
  obtain ⟨hMade, names, found, hList, hFound, rfl⟩ := load_eq_ok h
  obtain ⟨p, hNameable, hFolderAt, hNames⟩ := list_eq_ok_iff.mp hList
  obtain ⟨hNul, hFolder⟩ := isFolder_of_makeFoldersAt (parts_folderPath_ne_nil _ root) hMade
  have hReady : Ready d' (folderPath (Record.kind α) root) p :=
    ⟨hNul, hNameable, hFolder, hFolderAt⟩
  -- Each name is kept together with its being listed, for that is what the assumption asks for.
  have hRecord : ∀ name ∈ names.filter isRecordName,
      name ∈ names ∧ isRecordName name = true := fun _ => List.mem_filter.mp
  obtain ⟨hMap, hEach⟩ := names_of_forall₂
    (((List.forall₂_and_left _ _).mpr ⟨hRecord, readRecords_eq_ok_iff.mp hFound⟩).imp
      fun name r ⟨⟨hMem, hName⟩, hRead⟩ => by
        obtain ⟨hPlain, rfl⟩ := named names hList name hMem hName r hRead
        exact ⟨rfl, (filed_iff_readRecord hReady hPlain).mpr hRead⟩)
  refine ⟨p, hMade, hReady, ?_, fun r hr => hEach r ((sorted_perm found).subset hr)⟩
  have hPerm : (d'.namesIn p).Perm names := hNames ▸ (List.mergeSort_perm _ _).symm
  exact (hPerm.filter _).trans (hMap ▸ ((sorted_perm found).map _).symm)

/-- Where no record is loaded there is no record file. -/
theorem namedForIds_of_load_nil (h : load α d root = (.ok [], d')) : NamedForIds α d' root := by
  obtain ⟨-, names, found, hList, hFound, hNone⟩ := load_eq_ok h
  obtain rfl : found = [] := List.perm_nil.mp (hNone ▸ (sorted_perm found).symm)
  have hEach := readRecords_eq_ok_iff.mp hFound
  rw [List.forall₂_nil_right_iff, List.filter_eq_nil_iff] at hEach
  intro names' hList' name hMem hRecord
  obtain rfl : names = names' := Except.ok.inj (hList.symm.trans hList')
  exact absurd hRecord (hEach name hMem)

/-- Making a folder where there was nothing leaves what can be read. -/
theorem read_of_made {path content : String} {p : Place} (absent : d.find? p = none)
    (h : d.read path = .ok content) : (d.set p .folder).read path = .ok content := by
  have hRoot : p ≠ [] := by
    rintro rfl
    cases absent
  obtain ⟨q, hLocate, hFile⟩ := read_eq_ok_iff.mp h
  obtain ⟨hNameable, hWalk, hFolderPath⟩ := locate_eq_ok_iff.mp hLocate
  have hGrows := grows_set_folder absent
  have hStart : (d.set p .folder).start path = d.start path := by
    unfold start
    rw [hGrows.1]
  -- The file lies elsewhere, since there was nothing where the folder is made.
  have hOther : q ≠ p := by
    rintro rfl
    rw [absent] at hFile
    cases hFile
  refine read_eq_ok_iff.mpr ⟨q, locate_eq_ok_iff.mpr
    ⟨hNameable, hStart ▸ hGrows.walk hWalk, fun hPath => ?_⟩, ?_⟩
  · exact absurd hFile (hFolderPath hPath _)
  · rw [find?_set d hRoot, if_neg hOther]
    exact hFile

/-- The folder of each kind lies in one and the same place. -/
theorem exists_around {p : Place} {kind : RecordKind} (h : d.FolderAt (folderPath kind root) p) :
    ∃ q, p = q ++ [kind.folder] ∧ ∀ other : RecordKind,
      d.walk (d.start (folderPath other root)) (parts (folderPath other root)) =
        .ok (q ++ [other.folder]) := by
  have hWalk := h.walk
  rw [parts_folderPath] at hWalk
  obtain ⟨q, hInside⟩ := exists_inside hWalk
  have hStep (other : RecordKind) : d.walk q [other.folder] = .ok (q ++ [other.folder]) :=
    (walk_singleton_eq_ok_iff (isName_folder other).points).mpr ⟨by cases other <;> decide, rfl⟩
  refine ⟨q, ?_, fun other => ?_⟩
  · rw [hInside, hStep] at hWalk
    exact (Except.ok.inj hWalk).symm
  · have hStart (kind : RecordKind) : d.start (folderPath kind root) = d.start root :=
      start_join d root (isName_folder kind)
    rw [hStart kind] at hInside
    rw [parts_folderPath, hStart other, hInside, hStep]

section Leads

variable {d₁ d₀ : Disk} {q : Place}
  (made : d₁.makeFoldersAt (folderPath .lead root) = (.ok (), d₀))
include made

/-- Where the folder of the products is, that of the leads is there or comes to lie beside it. -/
theorem leads_made
    (products : d₁.FolderAt (folderPath .product root) (q ++ [RecordKind.product.folder])) :
    d₀ = d₁ ∨ d₁.find? (q ++ [RecordKind.lead.folder]) = none ∧
      d₀ = d₁.set (q ++ [RecordKind.lead.folder]) .folder := by
  obtain ⟨q', hSame, hWalk⟩ := exists_around products
  obtain rfl : q = q' := List.append_inj_left' hSame rfl
  exact makeFoldersAt_cases (parts_folderPath_ne_nil _ root) (hWalk .lead) made

theorem changesIn_leads_made
    (products : d₁.FolderAt (folderPath .product root) (q ++ [RecordKind.product.folder])) :
    d₁.ChangesIn d₀ q := by
  rcases leads_made made products with rfl | ⟨-, rfl⟩
  · exact ⟨⟨rfl, fun _ h => h⟩, fun _ _ => rfl, fun _ _ _ => rfl⟩
  · exact changesIn_set _ fun _ => rfl

/-- The products are named for their ids before the folder of the leads is made if they are so
afterwards. -/
theorem NamedForIds.before_leads (named : NamedForIds Product d₀ root) :
    NamedForIds Product d₁ root := by
  intro names hList name hMem hRecord r hRead
  obtain ⟨p, hNameable, hFolderAt, hNames⟩ := list_eq_ok_iff.mp hList
  obtain ⟨q, rfl, -⟩ := exists_around hFolderAt
  have hChanges := changesIn_leads_made made hFolderAt
  refine named names ?_ name hMem hRecord r ?_
  · refine list_eq_ok_iff.mpr ⟨_, hNameable, hChanges.grows.folderAt hFolderAt, ?_⟩
    rw [hChanges.names _ (by simp), hNames]
  · obtain ⟨content, hContent, hRecord⟩ := readRecord_eq_ok_iff.mp hRead
    refine readRecord_eq_ok_iff.mpr ⟨content, ?_, hRecord⟩
    rcases leads_made made hFolderAt with rfl | ⟨hAbsent, rfl⟩
    · exact hContent
    · exact read_of_made hAbsent hContent

end Leads

end Files

namespace Store

theorem exists_loads_of_openAt {root : String} {d d₀ : Disk} {s : Store}
    (opened : openAt root d = (.ok s, d₀)) :
    ∃ d₁, load Product d root = (.ok s.tables.products.rows, d₁) ∧
      load Lead d₁ root = (.ok s.tables.leads.rows, d₀) ∧
      s.backing? = some { root := root, disk := d₀ } := by
  unfold openAt at opened
  split at opened
  · cases opened
  · next products d₁ hProducts =>
    split at opened
    · cases opened
    · next leads d₂ hLeads =>
      split at opened
      · cases opened
      · cases opened
      · next productTable leadTable hProductTable hLeadTable =>
        cases opened
        have hProductRows : productTable.rows = products := Table.rows_of_ofRows hProductTable
        have hLeadRows : leadTable.rows = leads := Table.rows_of_ofRows hLeadTable
        exact ⟨d₁, hProductRows ▸ hProducts, hLeadRows ▸ hLeads, rfl⟩

theorem onDisk_of_loads {root : String} {d d₁ d₀ : Disk} {s : Store}
    (backing : s.backing? = some { root := root, disk := d₀ })
    (hProducts : load Product d root = (.ok s.tables.products.rows, d₁))
    (hLeads : load Lead d₁ root = (.ok s.tables.leads.rows, d₀))
    (products : NamedForIds Product d₁ root) (leads : NamedForIds Lead d₀ root) :
    ∃ q, OnDisk .readable s root q d₀ := by
  -- The products are loaded first, so that they have to outlast the making of the other folder.
  obtain ⟨p, hMade, hLeadRows⟩ := holds_of_load hLeads leads
  obtain ⟨p', -, hProductRows⟩ := holds_of_load hProducts products
  obtain ⟨q, rfl, -⟩ := exists_around hProductRows.ready.folderAt
  have hChanges := changesIn_leads_made hMade hProductRows.ready.folderAt
  have hProductsThen := hProductRows.frame hChanges (by simp)
  obtain ⟨q', hSame, hWalk⟩ := exists_around hProductsThen.ready.folderAt
  obtain rfl : q = q' := List.append_inj_left' hSame rfl
  have hPlace : p = q ++ [RecordKind.lead.folder] :=
    Except.ok.inj (hLeadRows.ready.folderAt.walk.symm.trans (hWalk .lead))
  exact ⟨q, backing, hProductsThen, hPlace ▸ hLeadRows⟩

/-- A store that has been opened is on disk if every record file is named for its record. -/
theorem onDisk_of_openAt {root : String} {d d₀ : Disk} {s : Store}
    (opened : openAt root d = (.ok s, d₀)) (products : NamedForIds Product d₀ root)
    (leads : NamedForIds Lead d₀ root) : ∃ q, OnDisk .readable s root q d₀ := by
  obtain ⟨d₁, hProducts, hLeads, hBacking⟩ := exists_loads_of_openAt opened
  obtain ⟨p, hMade, -⟩ := holds_of_load hLeads leads
  exact onDisk_of_loads hBacking hProducts hLeads (products.before_leads hMade) leads

/-- A store that has been opened on no records is on disk. -/
theorem onDisk_of_openAt_empty {root : String} {d d₀ : Disk} {s : Store}
    (opened : openAt root d = (.ok s, d₀)) (empty : s.tables = {}) (form : Form) :
    ∃ q, OnDisk form s root q d₀ := by
  obtain ⟨d₁, hProducts, hLeads, hBacking⟩ := exists_loads_of_openAt opened
  have hNoProduct : s.tables.products.rows = [] := by rw [empty]; rfl
  have hNoLead : s.tables.leads.rows = [] := by rw [empty]; rfl
  obtain ⟨q, hOnDisk⟩ := onDisk_of_loads hBacking hProducts hLeads
    (namedForIds_of_load_nil (hNoProduct ▸ hProducts))
    (namedForIds_of_load_nil (hNoLead ▸ hLeads))
  refine ⟨q, hOnDisk.reform ?_ ?_⟩
  · rw [hNoProduct]
    nofun
  · rw [hNoLead]
    nofun

/-- The records of one kind that another store holds, listed by time of creation and id. -/
structure SameInOrder (α : Type) [Stored α] (s again : Store) : Prop where
  get : ∀ id, (again.get id : Except StorageError α) = s.get id
  count : ∀ keep : α → Bool, again.count keep = s.count keep
  pages : ∃ rows : List α, rows.Perm (Stored.table s.tables).rows ∧
    rows.Pairwise (fun r r' => Record.precedes r r' = true) ∧
    ∀ (keep : α → Bool) (page : Page), again.page keep page = page.cut (rows.filter keep)

theorem sameInOrder_of_rows {α : Type} [Stored α] {s again : Store}
    (h : (Stored.table again.tables : Table α).rows =
      sorted (Stored.table s.tables : Table α).rows) : SameInOrder α s again := by
  have hPerm := sorted_perm (Stored.table s.tables : Table α).rows
  refine ⟨fun id => ?_, fun keep => ?_, sorted (Stored.table s.tables).rows, hPerm,
    sorted_pairwise _, fun keep page => ?_⟩
  · have hFind : (Stored.table again.tables : Table α).find? id =
        (Stored.table s.tables : Table α).find? id := by
      refine Option.ext fun r => ?_
      rw [Table.find?_eq_some_iff, Table.find?_eq_some_iff, h, hPerm.mem_iff]
    unfold Store.get
    rw [hFind]
  · unfold Store.count Table.count
    rw [h]
    exact (hPerm.filter keep).length_eq
  · unfold Store.page Table.page
    rw [h]

theorem openAt_of_load {root : String} {d : Disk} {products : List Product} {leads : List Lead}
    {productTable : Table Product} {leadTable : Table Lead}
    (hProducts : load Product d root = (.ok products, d))
    (hLeads : load Lead d root = (.ok leads, d))
    (hProductTable : Table.empty.ofRows products = .ok productTable)
    (hLeadTable : Table.empty.ofRows leads = .ok leadTable) :
    openAt root d =
      (.ok ⟨⟨productTable, leadTable⟩, some { root := root, disk := d }⟩, d) := by
  unfold openAt
  rw [hProducts]
  dsimp only
  rw [hLeads]
  dsimp only
  rw [hProductTable, hLeadTable]

/-- Folders in which nothing lies are opened without records. -/
theorem openAt_of_list_nil {root : String} {d : Disk}
    (made : ∀ kind, d.makeFoldersAt (folderPath kind root) = (.ok (), d))
    (listed : ∀ kind, d.list (folderPath kind root) = .ok []) :
    openAt root d = (.ok ⟨{}, some { root := root, disk := d }⟩, d) := by
  have hLoad (α : Type) [Record α] : load α d root = (.ok [], d) := by
    rw [load_of_readRecords (made _) (listed _) rfl, sorted, List.mergeSort_nil]
  exact openAt_of_load (hLoad Product) (hLoad Lead) rfl rfl

/-- What is on disk is opened as it is. -/
theorem OnDisk.openAt {s : Store} {root : String} {q : Place} {d : Disk}
    (h : OnDisk .readable s root q d) : ∃ again, Store.openAt root d = (.ok again, d) ∧
      SameInOrder Product s again ∧ SameInOrder Lead s again := by
  have hTable {α : Type} [Record α] (t : Table α) :
      ∃ u : Table α, Table.empty.ofRows (sorted t.rows) = .ok u ∧ u.rows = sorted t.rows := by
    have hDistinct : ((sorted t.rows).map Record.id).Nodup :=
      ((sorted_perm t.rows).map Record.id).nodup_iff.mpr t.distinct
    obtain ⟨u, hRows⟩ := Table.exists_ofRows hDistinct
    exact ⟨u, hRows, Table.rows_of_ofRows hRows⟩
  obtain ⟨products, hProducts, hProductRows⟩ := hTable s.tables.products
  obtain ⟨leads, hLeads, hLeadRows⟩ := hTable s.tables.leads
  exact ⟨_, openAt_of_load (h.products.load s.tables.products.distinct)
    (h.leads.load s.tables.leads.distinct) hProducts hLeads,
    sameInOrder_of_rows hProductRows, sameInOrder_of_rows hLeadRows⟩

end Store

end Intake
