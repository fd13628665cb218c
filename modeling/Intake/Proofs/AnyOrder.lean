import Intake.Proofs.Durability
import Intake.Proofs.Fallible
import Intake.Proofs.Temporaries

/-! # Opening in any order

The entries of a folder come in no order in particular. What is opened goes by the record files
alone: every one of them has to hold a record, no two of one folder the same id, and the tables then
list the records by time of creation and id, in whatever order the files came. Nothing that is on
disk is touched.
-/

namespace Intake

open Disk Files

namespace Disk

variable {d d' d'' : Disk} {path : String}

/-- From one disk to the other nothing has come but folders, each where there was nothing. -/
def OnlyMakesFolders (d d' : Disk) : Prop :=
  ∀ p, d'.find? p = d.find? p ∨ d.find? p = none ∧ d'.find? p = some .folder

theorem OnlyMakesFolders.refl (d : Disk) : d.OnlyMakesFolders d := fun _ => .inl rfl

theorem OnlyMakesFolders.trans (first : d.OnlyMakesFolders d') (second : d'.OnlyMakesFolders d'') :
    d.OnlyMakesFolders d'' := by
  intro p
  rcases second p with hSame | ⟨hAbsent, hFolder⟩
  · rw [hSame]
    exact first p
  · rcases first p with hSame | ⟨-, hFolder'⟩
    · exact .inr ⟨hSame ▸ hAbsent, hFolder⟩
    · rw [hAbsent] at hFolder'
      cases hFolder'

theorem onlyMakesFolders_makeFolder (h : d.makeFolder path = .ok d') : d.OnlyMakesFolders d' := by
  obtain ⟨q, -, hAbsent, rfl⟩ := makeFolder_eq_ok_iff.mp h
  have hRoot : q ≠ [] := by
    rintro rfl
    cases hAbsent
  intro p
  rw [find?_set d hRoot]
  split
  · next hHere => exact .inr ⟨hHere ▸ hAbsent, rfl⟩
  · exact .inl rfl

theorem onlyMakesFolders_makeLast (d : Disk) (path : String) :
    d.OnlyMakesFolders (d.makeLast path).2 := by
  unfold makeLast
  split
  · next hMade => exact onlyMakesFolders_makeFolder hMade
  · split <;> exact .refl d

theorem onlyMakesFolders_makeFolders (d : Disk) (leading : String) : (parts : List String) →
    d.OnlyMakesFolders (d.makeFolders leading parts).2
  | [] => by
    rw [makeFolders]
    exact .refl d
  | part :: rest => by
    have hAround := onlyMakesFolders_makeFolders d leading (part :: rest).dropLast
    rw [makeFolders_cons]
    split
    · split
      · next hMade =>
        rw [hMade] at hAround
        exact hAround.trans (onlyMakesFolders_makeLast _ _)
      · next hFailed =>
        rw [hFailed] at hAround
        exact hAround
    · exact onlyMakesFolders_makeLast d _
termination_by parts => parts.length
decreasing_by simp

theorem onlyMakesFolders_makeFoldersAt (d : Disk) (path : String) :
    d.OnlyMakesFolders (d.makeFoldersAt path).2 := by
  unfold makeFoldersAt
  split
  · exact .refl d
  · exact onlyMakesFolders_makeFolders d _ _

end Disk

namespace Table

variable {α : Type} [Record α] {t u : Table α} {rows : List α}

theorem ext_rows (h : t.rows = u.rows) : t = u := by
  obtain ⟨rows, distinct⟩ := t
  obtain ⟨rows', distinct'⟩ := u
  obtain rfl : rows = rows' := h
  rfl

/-- Rows make a table of their own exactly if it is one with these rows. -/
theorem ofRows_empty_eq_ok_iff : Table.empty.ofRows rows = .ok t ↔ t.rows = rows := by
  constructor
  · intro h
    rw [rows_of_ofRows h]
    rfl
  · rintro rfl
    obtain ⟨u, hRows⟩ := exists_ofRows t.distinct
    rw [hRows, ext_rows (rows_of_ofRows hRows)]

end Table

/-- An order in which the entries of the folders come. -/
structure Enumeration where
  names : RecordKind → List String → List String
  perm : ∀ kind found, (names kind found).Perm found

/-- The entries come in the order of their names. -/
def Enumeration.byName : Enumeration := ⟨fun _ found => found, fun _ _ => .refl _⟩

namespace Files

variable {α : Type} [Record α] {d d' : Disk} {root : String} {rows listed : List α}

variable (α) in
/-- Loads the records of a folder whose entries come in some order. -/
def loadBy (order : Enumeration) (d : Disk) (root : String) :
    Except StorageError (List α) × Disk :=
  let folder := folderPath (Record.kind α) root
  match d.makeFoldersAt folder with
  | (.error e, d) => (.error (.disk .create folder e), d)
  | (.ok (), d) =>
    match d.list folder with
    | .error e => (.error (.disk .read folder e), d)
    | .ok names => ((readRecords d folder (order.names (Record.kind α) names)).map sorted, d)

/-- The record files of a folder by name, with what reading them gives. -/
def recordFiles (d : Disk) (folder : String) :
    Except OsError (List (String × Except OsError String)) :=
  (d.list folder).map fun names =>
    (names.filter isRecordName).map fun name => (name, d.read (join folder name))

/-- Each record file of a folder holds one of the records, and these have different ids. -/
structure Told (d : Disk) (root : String) (rows : List α) : Prop where
  each : ∃ files, recordFiles d (folderPath (Record.kind α) root) = .ok files ∧
    List.Forall₂ (fun file r => ∃ content, file.2 = .ok content ∧ Record.read content = .ok r)
      files rows
  distinct : (rows.map Record.id).Nodup

/-- The rows, listed by time of creation and by id where the times agree. -/
structure SortedListing (listed rows : List α) : Prop where
  perm : listed.Perm rows
  ordered : listed.Pairwise fun r s => Record.precedes r s = true

theorem sortedListing_sorted (rows : List α) : SortedListing (sorted rows) rows :=
  ⟨sorted_perm rows, sorted_pairwise rows⟩

theorem SortedListing.eq_sorted (h : SortedListing listed rows)
    (distinct : (rows.map Record.id).Nodup) : listed = sorted rows := by
  refine List.Perm.eq_of_pairwise ?_ h.ordered (sorted_pairwise rows)
    (h.perm.trans (sorted_perm rows).symm)
  intro a b ha hb hab hba
  exact List.inj_on_of_nodup_map distinct (h.perm.subset ha) ((sorted_perm rows).subset hb)
    (id_eq_of_precedes hab hba)

theorem loadBy_eq_ok_iff {order : Enumeration} : loadBy α order d root = (.ok listed, d') ↔
    d.makeFoldersAt (folderPath (Record.kind α) root) = (.ok (), d') ∧
      ∃ (names : List String) (found : List α),
        d'.list (folderPath (Record.kind α) root) = .ok names ∧
          readRecords d' (folderPath (Record.kind α) root) (order.names (Record.kind α) names) =
            .ok found ∧
          sorted found = listed := by
  unfold loadBy
  dsimp only
  cases d.makeFoldersAt (folderPath (Record.kind α) root) with
  | mk made d₁ =>
    cases made with
    | error e => simp
    | ok =>
      dsimp only
      cases hList : d₁.list (folderPath (Record.kind α) root) with
      | error e =>
        refine iff_of_false nofun ?_
        rintro ⟨⟨⟩, names, found, hNames, -⟩
        rw [hList] at hNames
        cases hNames
      | ok names =>
        rw [Prod.mk.injEq, map_eq_ok_iff, Prod.mk.injEq]
        constructor
        · rintro ⟨⟨found, hFound, hSorted⟩, rfl⟩
          exact ⟨⟨rfl, rfl⟩, names, found, hList, hFound, hSorted⟩
        · rintro ⟨⟨-, rfl⟩, names', found, hNames, hFound, hSorted⟩
          obtain rfl : names = names' := Except.ok.inj (hList.symm.trans hNames)
          exact ⟨⟨found, hFound, hSorted⟩, rfl⟩

theorem disk_loadBy (order : Enumeration) (d : Disk) (root : String) :
    (loadBy α order d root).2 = (d.makeFoldersAt (folderPath (Record.kind α) root)).2 := by
  unfold loadBy
  dsimp only
  cases d.makeFoldersAt (folderPath (Record.kind α) root) with
  | mk made d₁ =>
    cases made with
    | error e => rfl
    | ok =>
      dsimp only
      split <;> rfl

theorem told_iff : Told d root rows ↔
    (∃ names, d.list (folderPath (Record.kind α) root) = .ok names ∧
      List.Forall₂
        (fun name r => readRecord d (join (folderPath (Record.kind α) root) name) = .ok r)
        (names.filter isRecordName) rows) ∧
    (rows.map Record.id).Nodup := by
  have hEach (names : List String) :
      List.Forall₂ (fun file r => ∃ content, file.2 = .ok content ∧ Record.read content = .ok r)
        ((names.filter isRecordName).map fun name =>
          (name, d.read (join (folderPath (Record.kind α) root) name))) rows ↔
      List.Forall₂
        (fun name r => readRecord d (join (folderPath (Record.kind α) root) name) = .ok r)
        (names.filter isRecordName) rows := by
    rw [List.forall₂_map_left_iff]
    simp only [readRecord_eq_ok_iff]
  constructor
  · rintro ⟨⟨files, hFiles, hRows⟩, hDistinct⟩
    obtain ⟨names, hNames, rfl⟩ := map_eq_ok_iff.mp hFiles
    exact ⟨⟨names, hNames, (hEach names).mp hRows⟩, hDistinct⟩
  · rintro ⟨⟨names, hNames, hRows⟩, hDistinct⟩
    exact ⟨⟨_, map_eq_ok_iff.mpr ⟨names, hNames, rfl⟩, (hEach names).mpr hRows⟩, hDistinct⟩

theorem Told.congr (h : Told d root rows)
    (files : recordFiles d' (folderPath (Record.kind α) root) =
      recordFiles d (folderPath (Record.kind α) root)) : Told d' root rows :=
  ⟨files ▸ h.each, h.distinct⟩

/-- Whatever the order of the entries, what is loaded with different ids is what the record files
tell, in order. -/
theorem loadBy_told {order : Enumeration} :
    (loadBy α order d root = (.ok listed, d') ∧ (listed.map Record.id).Nodup) ↔
      d.makeFoldersAt (folderPath (Record.kind α) root) = (.ok (), d') ∧
        ∃ rows, Told d' root rows ∧ SortedListing listed rows := by
  have hNames (names : List String) :
      ((order.names (Record.kind α) names).filter isRecordName).Perm (names.filter isRecordName) :=
    (order.perm _ names).filter _
  rw [loadBy_eq_ok_iff]
  constructor
  · rintro ⟨⟨hMade, names, found, hList, hFound, rfl⟩, hDistinct⟩
    obtain ⟨rows, hRows, hPerm⟩ :=
      List.perm_comp_forall₂ (hNames names).symm (readRecords_eq_ok_iff.mp hFound)
    have hSorted : (sorted found).Perm rows := (sorted_perm found).trans hPerm.symm
    exact ⟨hMade, rows, told_iff.mpr ⟨⟨names, hList, hRows⟩,
      (hSorted.map Record.id).nodup_iff.mp hDistinct⟩, hSorted, sorted_pairwise found⟩
  · rintro ⟨hMade, rows, hTold, hOrder⟩
    obtain ⟨⟨names, hList, hRows⟩, hDistinct⟩ := told_iff.mp hTold
    obtain ⟨found, hFound, hPerm⟩ := List.perm_comp_forall₂ (hNames names) hRows
    refine ⟨⟨hMade, names, found, hList, readRecords_eq_ok_iff.mpr hFound, ?_⟩,
      (hOrder.perm.map Record.id).nodup_iff.mpr hDistinct⟩
    rw [sorted_eq_of_perm hDistinct hPerm, hOrder.eq_sorted hDistinct]

/-- The names of record files: something, and the extension behind it. -/
theorem isRecordName_iff {name : String} :
    isRecordName name = true ↔ ∃ stem, stem ≠ [] ∧ name.toList = stem ++ ".json".toList := by
  constructor
  · intro h
    obtain ⟨stem, hName⟩ := endsAsRecord_of_isRecordName h
    refine ⟨stem, ?_, hName⟩
    rintro rfl
    rw [isRecordName, hName] at h
    exact absurd h (by decide)
  · rintro ⟨stem, hNonempty, hName⟩
    have hText : name.toList = stem ++ '.' :: "json".toList := hName
    rw [isRecordName, hText, splitName_append hNonempty (by decide)]
    rfl

end Files

namespace Store

variable {d d' d₁ d₂ : Disk} {root : String} {s : Store}

/-- Opens a folder as `openAt` does, with the entries in some order. -/
def openBy (order : Enumeration) (root : String) (d : Disk) : Except StorageError Store × Disk :=
  match Files.loadBy Product order d root with
  | (.error e, d) => (.error e, d)
  | (.ok products, d) =>
    match Files.loadBy Lead order d root with
    | (.error e, d) => (.error e, d)
    | (.ok leads, d) =>
      match Table.empty.ofRows products, Table.empty.ofRows leads with
      | .error id, _ => (.error (.duplicate id), d)
      | .ok _, .error id => (.error (.duplicate id), d)
      | .ok products, .ok leads => (.ok ⟨⟨products, leads⟩, some { root := root, disk := d }⟩, d)

theorem openAt_eq_openBy : openAt root d = openBy .byName root d := rfl

theorem openBy_eq_ok_iff {order : Enumeration} : openBy order root d = (.ok s, d₂) ↔
    ∃ d₁, loadBy Product order d root = (.ok s.tables.products.rows, d₁) ∧
      loadBy Lead order d₁ root = (.ok s.tables.leads.rows, d₂) ∧
      s.backing? = some { root := root, disk := d₂ } := by
  constructor
  · intro h
    unfold openBy at h
    split at h
    · cases h
    · next products d₁ hProducts =>
      split at h
      · cases h
      · next leads d₂ hLeads =>
        split at h
        · cases h
        · cases h
        · next productTable leadTable hProductTable hLeadTable =>
          cases h
          obtain rfl : productTable.rows = products := Table.ofRows_empty_eq_ok_iff.mp hProductTable
          obtain rfl : leadTable.rows = leads := Table.ofRows_empty_eq_ok_iff.mp hLeadTable
          exact ⟨d₁, hProducts, hLeads, rfl⟩
  · obtain ⟨⟨products, leads⟩, backing?⟩ := s
    rintro ⟨d₁, hProducts, hLeads, rfl⟩
    have hProductTable : Table.empty.ofRows products.rows = .ok products :=
      Table.ofRows_empty_eq_ok_iff.mpr rfl
    have hLeadTable : Table.empty.ofRows leads.rows = .ok leads :=
      Table.ofRows_empty_eq_ok_iff.mpr rfl
    unfold openBy
    dsimp only at hProducts hLeads
    rw [hProducts]
    dsimp only
    rw [hLeads]
    dsimp only
    rw [hProductTable, hLeadTable]

/-- What a store holds that is opened on what the record files tell. -/
structure Opens (s : Store) (root : String) (d : Disk) (ps : List Product) (ls : List Lead) :
    Prop where
  products : SortedListing s.tables.products.rows ps
  leads : SortedListing s.tables.leads.rows ls
  backing : s.backing? = some { root := root, disk := d }

/-- The order in which the entries come is nowhere in what it takes to be opened. -/
theorem openBy_eq_ok_iff_told {order : Enumeration} : openBy order root d = (.ok s, d₂) ↔
    ∃ d₁ ps ls, d.makeFoldersAt (folderPath .product root) = (.ok (), d₁) ∧
      d₁.makeFoldersAt (folderPath .lead root) = (.ok (), d₂) ∧
      Told d₁ root ps ∧ Told d₂ root ls ∧ s.Opens root d₂ ps ls := by
  rw [openBy_eq_ok_iff]
  constructor
  · rintro ⟨d₁, hProducts, hLeads, hBacking⟩
    obtain ⟨hMade, ps, hTold, hOrder⟩ := loadBy_told.mp ⟨hProducts, s.tables.products.distinct⟩
    obtain ⟨hMade', ls, hTold', hOrder'⟩ := loadBy_told.mp ⟨hLeads, s.tables.leads.distinct⟩
    exact ⟨d₁, ps, ls, hMade, hMade', hTold, hTold', hOrder, hOrder', hBacking⟩
  · rintro ⟨d₁, ps, ls, hMade, hMade', hTold, hTold', hOrder, hOrder', hBacking⟩
    have hProducts : loadBy Product order d root = (.ok s.tables.products.rows, d₁) ∧
        (s.tables.products.rows.map Record.id).Nodup :=
      loadBy_told.mpr ⟨hMade, ps, hTold, hOrder⟩
    have hLeads : loadBy Lead order d₁ root = (.ok s.tables.leads.rows, d₂) ∧
        (s.tables.leads.rows.map Record.id).Nodup :=
      loadBy_told.mpr ⟨hMade', ls, hTold', hOrder'⟩
    exact ⟨d₁, hProducts.1, hLeads.1, hBacking⟩

theorem exists_opens {ps : List Product} {ls : List Lead} (products : (ps.map Record.id).Nodup)
    (leads : (ls.map Record.id).Nodup) (root : String) (d : Disk) :
    ∃ s : Store, s.Opens root d ps ls :=
  have hTable {α : Type} [Record α] {rows : List α} (distinct : (rows.map Record.id).Nodup) :
      ((sorted rows).map Record.id).Nodup :=
    ((sorted_perm rows).map Record.id).nodup_iff.mpr distinct
  ⟨⟨⟨⟨sorted ps, hTable products⟩, ⟨sorted ls, hTable leads⟩⟩, some { root := root, disk := d }⟩,
    sortedListing_sorted ps, sortedListing_sorted ls, rfl⟩

theorem onlyMakesFolders_openBy (order : Enumeration) (root : String) (d : Disk) :
    d.OnlyMakesFolders (openBy order root d).2 := by
  have hLoad {α : Type} [Record α] (d : Disk) : d.OnlyMakesFolders (loadBy α order d root).2 := by
    rw [disk_loadBy]
    exact onlyMakesFolders_makeFoldersAt d _
  have hProducts := hLoad (α := Product) d
  unfold openBy
  split
  · next hFailed =>
    rw [hFailed] at hProducts
    exact hProducts
  · next d₁ hLoaded =>
    rw [hLoaded] at hProducts
    have hLeads := hLoad (α := Lead) d₁
    split
    · next hFailed =>
      rw [hFailed] at hLeads
      exact hProducts.trans hLeads
    · next hLoaded' =>
      rw [hLoaded'] at hLeads
      split <;> exact hProducts.trans hLeads

/-- Where the folders are there already, none is made. -/
theorem Opened.made (opened : Opened d root) (kind : RecordKind) :
    d.makeFoldersAt (folderPath kind root) = (.ok (), d) := by
  obtain ⟨p, hReady⟩ := opened kind
  exact makeFoldersAt_of_isFolder hReady.nul hReady.made

theorem Opened.listed (opened : Opened d root) (kind : RecordKind) :
    ∃ files, recordFiles d (folderPath kind root) = .ok files := by
  obtain ⟨p, hReady⟩ := opened kind
  have hList : d.list (folderPath kind root) = .ok ((d.namesIn p).mergeSort fun a b => a ≤ b) :=
    list_eq_ok_iff.mpr ⟨p, hReady.nameable, hReady.folderAt, rfl⟩
  rw [recordFiles, hList]
  exact ⟨_, rfl⟩

/-- A folder is opened exactly if each record file in it tells a record and no two of one kind the
same id. The tables then list the told records in order, whatever the order of the entries. What is
no record file makes no difference, and what is on disk stays, whether the opening fails or not. -/
theorem openBy_canonical (order : Enumeration) (root : String) (d : Disk) :
    ((∃ s, (openBy order root d).1 = .ok s) ↔
      ∃ d₁ d₂, d.makeFoldersAt (folderPath .product root) = (.ok (), d₁) ∧
        d₁.makeFoldersAt (folderPath .lead root) = (.ok (), d₂) ∧
        (∃ ps : List Product, Told d₁ root ps) ∧ ∃ ls : List Lead, Told d₂ root ls) ∧
    (∀ s, (openBy order root d).1 = .ok s →
      openAt root d = openBy order root d ∧
        ∃ d₁ ps ls, d.makeFoldersAt (folderPath .product root) = (.ok (), d₁) ∧
          Told d₁ root ps ∧ Told (openBy order root d).2 root ls ∧
          s.Opens root (openBy order root d).2 ps ls) ∧
    (Opened d root → ∀ kind, d.makeFoldersAt (folderPath kind root) = (.ok (), d) ∧
      ∃ files, recordFiles d (folderPath kind root) = .ok files) ∧
    (∀ d', Opened d root → Opened d' root →
      (∀ kind, recordFiles d' (folderPath kind root) = recordFiles d (folderPath kind root)) →
      ∀ s, (openBy order root d).1 = .ok s →
        ∃ s', (openBy order root d').1 = .ok s' ∧ s'.tables = s.tables) ∧
    (∀ name, isRecordName name = true ↔
      ∃ stem, stem ≠ [] ∧ name.toList = stem ++ ".json".toList) ∧
    d.OnlyMakesFolders (openBy order root d).2 := by
  have hOpens {s : Store} (h : (openBy order root d).1 = .ok s) :
      openBy order root d = (.ok s, (openBy order root d).2) := Prod.ext h rfl
  refine ⟨⟨?_, ?_⟩, fun s hs => ?_, fun opened kind => ⟨opened.made kind, opened.listed kind⟩,
    fun d' opened opened' hFiles s hs => ?_, fun name => isRecordName_iff,
    onlyMakesFolders_openBy order root d⟩
  · rintro ⟨s, hs⟩
    obtain ⟨d₁, ps, ls, hMade, hMade', hTold, hTold', -⟩ := openBy_eq_ok_iff_told.mp (hOpens hs)
    exact ⟨d₁, _, hMade, hMade', ⟨ps, hTold⟩, ls, hTold'⟩
  · rintro ⟨d₁, d₂, hMade, hMade', ⟨ps, hTold⟩, ls, hTold'⟩
    obtain ⟨s, hs⟩ := exists_opens hTold.distinct hTold'.distinct root d₂
    have hOpened : openBy order root d = (.ok s, d₂) :=
      openBy_eq_ok_iff_told.mpr ⟨d₁, ps, ls, hMade, hMade', hTold, hTold', hs⟩
    exact ⟨s, congrArg Prod.fst hOpened⟩
  · have hTold := openBy_eq_ok_iff_told.mp (hOpens hs)
    refine ⟨?_, ?_⟩
    · rw [openAt_eq_openBy, hOpens hs]
      exact openBy_eq_ok_iff_told.mpr hTold
    · obtain ⟨d₁, ps, ls, hMade, -, hTold, hTold', hs⟩ := hTold
      exact ⟨d₁, ps, ls, hMade, hTold, hTold', hs⟩
  · obtain ⟨d₁, ps, ls, hMade, hMade', hTold, hTold', hProducts, hLeads, -⟩ :=
      openBy_eq_ok_iff_told.mp (hOpens hs)
    obtain rfl : d = d₁ := (Prod.mk.inj ((opened.made .product).symm.trans hMade)).2
    obtain hSame : d = (openBy order root d).2 :=
      (Prod.mk.inj ((opened.made .lead).symm.trans hMade')).2
    rw [← hSame] at hTold'
    have hOpened : openBy order root d' =
        (.ok ⟨s.tables, some { root := root, disk := d' }⟩, d') :=
      openBy_eq_ok_iff_told.mpr ⟨d', ps, ls, opened'.made .product, opened'.made .lead,
        hTold.congr (hFiles .product), hTold'.congr (hFiles .lead), hProducts, hLeads, rfl⟩
    exact ⟨_, congrArg Prod.fst hOpened, rfl⟩

/-- Two products of the same time lie in files whose names come in the other order, among files that
are none of records. -/
theorem openBy_canonical_two_products :
    let p : Product := ⟨"p1", "Loans", "", .object [], ⟨0, 0⟩, ⟨0, 0⟩⟩
    let q : Product := ⟨"p2", "Cards", "", .object [], ⟨0, 0⟩, ⟨0, 0⟩⟩
    let folders : List (Place × Entry) :=
      [(["data"], .folder), (["data", "products"], .folder), (["data", "leads"], .folder)]
    let files : List (Place × Entry) :=
      [(["data", "products", "a.json"], .file (.text (Record.fileText q))),
        (["data", "products", "b.json"], .file (.text (Record.fileText p)))]
    let d : Disk := { entries := folders ++ (["data", "products", ".json"], .file .binary) ::
      files ++ [(["data", "products", "b.json.tmp"], .file (.text ""))] }
    let d' : Disk := { entries := folders ++ files }
    let backwards : Enumeration := ⟨fun _ found => found.reverse, fun _ _ => List.reverse_perm _⟩
    Opened d "data" ∧ Opened d' "data" ∧
      (∀ kind, recordFiles d' (folderPath kind "data") = recordFiles d (folderPath kind "data")) ∧
      ∃ s, openBy backwards "data" d = (.ok s, d) ∧ openAt "data" d = (.ok s, d) ∧
        s.tables.products.rows = [p, q] ∧ s.tables.leads.rows = [] ∧
        ∃ s', (openBy backwards "data" d').1 = .ok s' ∧ s'.tables = s.tables := by
  intro p q folders files d d' backwards
  have hReady (e : Disk) (he : e = d ∨ e = d') (kind : RecordKind) :
      Ready e (folderPath kind "data") ["data", kind.folder] := by
    rcases he with rfl | rfl <;> cases kind <;>
      exact ⟨by decide +kernel, ⟨by decide +kernel, by decide +kernel, by decide +kernel⟩,
        by decide +kernel, by decide +kernel, by decide +kernel⟩
  have hOpened : Opened d "data" := fun kind => ⟨_, hReady d (.inl rfl) kind⟩
  have hOpened' : Opened d' "data" := fun kind => ⟨_, hReady d' (.inr rfl) kind⟩
  have hProducts (e : Disk) (he : e = d ∨ e = d') : recordFiles e "data/products" =
      .ok [("a.json", .ok (Record.fileText q)), ("b.json", .ok (Record.fileText p))] := by
    have hList : e.list "data/products" = .ok (e.namesIn ["data", "products"]) := by
      have hThere := hReady e he .product
      refine list_eq_ok_iff.mpr ⟨_, hThere.nameable, hThere.folderAt, ?_⟩
      refine (List.mergeSort_of_pairwise ?_).symm
      rcases he with rfl | rfl <;> decide +kernel
    rw [recordFiles, hList]
    rcases he with rfl | rfl <;> rfl
  have hLeads (e : Disk) (he : e = d ∨ e = d') : recordFiles e "data/leads" = .ok [] := by
    rcases he with rfl | rfl <;> decide +kernel
  have hSame (kind : RecordKind) :
      recordFiles d' (folderPath kind "data") = recordFiles d (folderPath kind "data") := by
    cases kind with
    | product => exact (hProducts d' (.inr rfl)).trans (hProducts d (.inl rfl)).symm
    | lead => exact (hLeads d' (.inr rfl)).trans (hLeads d (.inl rfl)).symm
  have hToldProducts : Told d "data" [q, p] := by
    refine ⟨⟨_, hProducts d (.inl rfl), .cons ?_ (.cons ?_ .nil)⟩, by decide⟩
    · exact ⟨_, rfl, (storable_fieldless _ _).read_fileText⟩
    · exact ⟨_, rfl, (storable_fieldless _ _).read_fileText⟩
  have hToldLeads : Told (α := Lead) d "data" [] := ⟨⟨_, hLeads d (.inl rfl), .nil⟩, .nil⟩
  let s : Store := ⟨⟨⟨[p, q], by decide⟩, .empty⟩, some { root := "data", disk := d }⟩
  have hHolds : s.Opens "data" d [q, p] [] :=
    ⟨⟨.swap q p [], by decide⟩, ⟨.refl _, .nil⟩, rfl⟩
  have hBackwards : openBy backwards "data" d = (.ok s, d) :=
    openBy_eq_ok_iff_told.mpr ⟨d, [q, p], [], hOpened.made .product, hOpened.made .lead,
      hToldProducts, hToldLeads, hHolds⟩
  obtain ⟨-, hTold, -, hElsewhere, -, -⟩ := openBy_canonical backwards "data" d
  have hStore : (openBy backwards "data" d).1 = .ok s := congrArg Prod.fst hBackwards
  exact ⟨hOpened, hOpened', hSame, s, hBackwards, (hTold s hStore).1.trans hBackwards, rfl, rfl,
    hElsewhere d' hOpened hOpened' hSame s hStore⟩

end Store

end Intake
