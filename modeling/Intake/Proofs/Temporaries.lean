import Intake.Proofs.Members
import Intake.Proofs.Opening
import Mathlib.Data.List.TakeWhile

/-! # Temporary files

A temporary file is told by its name, whatever the id of its record. Disks that differ in such files
only are opened alike, and no temporary file lies where a record does.
-/

namespace Intake

namespace Disk

/-- Whether the name of a place is that of a temporary file. -/
def isTemporary (p : Place) : Bool :=
  match p.getLast? with
  | some name => ".json.tmp".toList.isSuffixOf name.toList
  | none => false

/-- The entries that are no temporary files, in their order. -/
def lasting (d : Disk) : List (Place × Entry) := d.entries.filter fun e => !isTemporary e.1

/-- Disks with the same folders that differ in temporary files only. -/
structure Alike (d d' : Disk) : Prop where
  here : d'.here = d.here
  lasting : d'.lasting = d.lasting
  folders : ∀ p, d'.find? p = some .folder ↔ d.find? p = some .folder

variable {d d' : Disk} {p q : Place} {name path : String}

theorem isTemporary_temporaryName (p : Place) (front : String) :
    isTemporary (p ++ [Files.temporaryName front]) = true := by
  simp [isTemporary, Files.temporaryName]

theorem exists_of_isTemporary (h : isTemporary p = true) :
    ∃ inside front, p = inside ++ [Files.temporaryName front] := by
  unfold isTemporary at h
  split at h
  · next name hLast =>
    obtain ⟨inside, rfl⟩ := List.getLast?_eq_some_iff.mp hLast
    obtain ⟨front, hFront⟩ := List.isSuffixOf_iff_suffix.mp h
    refine ⟨inside, String.ofList front, ?_⟩
    rw [List.append_cancel_left_eq, List.cons.injEq, ← String.toList_inj, Files.temporaryName,
      String.toList_append, String.toList_ofList, hFront]
    exact ⟨rfl, rfl⟩
  · cases h

theorem ne_nil_of_isTemporary (h : isTemporary p = true) : p ≠ [] := by
  rintro rfl
  cases h

theorem isRecordName_of_isTemporary (h : isTemporary (p ++ [name]) = true) :
    Files.isRecordName name = false := by
  obtain ⟨inside, front, hPlace⟩ := exists_of_isTemporary h
  obtain rfl : name = Files.temporaryName front :=
    List.head_eq_of_cons_eq (List.append_inj' hPlace rfl).2
  exact Files.isRecordName_temporaryName front

/-- No temporary file lies where the file of a record does, since they end differently. -/
theorem isTemporary_fileName (p : Place) (id : String) :
    isTemporary (p ++ [Files.fileName id]) = false := by
  rw [Bool.eq_false_iff]
  intro h
  obtain ⟨inside, front, hPlace⟩ := exists_of_isTemporary h
  have hName : Files.fileName id = Files.temporaryName front :=
    List.head_eq_of_cons_eq (List.append_inj' hPlace rfl).2
  have hLast := congrArg (fun s : String => s.toList.getLast?) hName
  simp [Files.fileName, Files.temporaryName] at hLast

namespace Alike

theorem refl (d : Disk) : d.Alike d := ⟨rfl, rfl, fun _ => Iff.rfl⟩

theorem symm (h : d.Alike d') : d'.Alike d :=
  ⟨h.here.symm, h.lasting.symm, fun p => (h.folders p).symm⟩

theorem grows (h : d.Alike d') : d.Grows d' := ⟨h.here.symm, fun p => (h.folders p).mpr⟩

theorem find? (h : d.Alike d') (lasts : isTemporary p = false) : d'.find? p = d.find? p := by
  have hLasting (d : Disk) : d.entries.find? (fun e => e.1 = p) =
      d.lasting.find? (fun e => e.1 = p) := by
    rw [Disk.lasting, List.find?_filter]
    congr 1
    funext e
    by_cases hPlace : e.1 = p
    · simp [hPlace, lasts]
    · simp [hPlace]
  unfold Disk.find?
  rw [hLasting, hLasting, h.lasting]

theorem locate (h : d.Alike d') (lasts : isTemporary p = false) (located : d.locate path = .ok p) :
    d'.locate path = .ok p := by
  obtain ⟨hNameable, hWalk, hFolderPath⟩ := locate_eq_ok_iff.mp located
  have hStart : d'.start path = d.start path := by
    unfold start
    rw [h.here]
  refine locate_eq_ok_iff.mpr ⟨hNameable, hStart ▸ h.grows.walk hWalk, ?_⟩
  rw [h.find? lasts]
  exact hFolderPath

theorem recordNames (h : d.Alike d') (p : Place) :
    (d'.namesIn p).filter Files.isRecordName = (d.namesIn p).filter Files.isRecordName := by
  let nameOf (e : Place × Entry) : Option String := if e.1.dropLast = p then e.1.getLast? else none
  have hLasting (d : Disk) : (d.namesIn p).filter Files.isRecordName =
      (d.lasting.filterMap nameOf).filter Files.isRecordName := by
    unfold namesIn Disk.lasting
    rw [List.filter_filterMap, List.filter_filterMap, List.filterMap_filter]
    congr 1
    funext e
    cases hTemporary : isTemporary e.1 with
    | false => simp [nameOf]
    | true =>
      change Option.filter _ (nameOf e) = _
      cases hName : nameOf e with
      | none => simp
      | some name =>
        have hPlace : e.1 = p ++ [name] := name_eq_some_iff.mp hName
        have hRecord := isRecordName_of_isTemporary (hPlace ▸ hTemporary)
        simp [hRecord, Option.filter]
  rw [hLasting, hLasting, h.lasting]

end Alike

theorem alike_set (temporary : isTemporary q = true) (content : Content)
    (unfolder : d.find? q ≠ some .folder) : d.Alike (d.set q (.file content)) where
  here := here_set d q _
  lasting := by
    unfold set
    split
    · have hKept (e : Place × Entry) :
          (!isTemporary (if e.1 = q then (q, Entry.file content) else e).1) =
            !isTemporary e.1 := by
        split
        · next hPlace => rw [hPlace]
        · rfl
      unfold lasting
      rw [List.filter_map]
      simp only [Function.comp_def, hKept]
      rw [map_eq_self_iff]
      intro e hMem
      refine if_neg ?_
      rintro rfl
      simp [temporary] at hMem
    · simp [lasting, temporary]
  folders p := by
    rw [find?_set d (ne_nil_of_isTemporary temporary)]
    split
    · next hSame => exact iff_of_false nofun (hSame ▸ unfolder)
    · rfl

theorem exists_of_walk {here : Place} {names : List String} (down : name ≠ "..")
    (h : d.walk here (names ++ [name]) = .ok p) : ∃ inside, p = inside ++ [name] := by
  obtain ⟨inside, hInside⟩ := exists_inside h
  rw [hInside, walk_singleton_eq_ok_iff down] at h
  exact ⟨inside, h.2⟩

theorem parts_append {front : List Char} (slash : front = [] ∨ front.getLast? = some '/')
    (hName : IsName name) :
    ∃ names, parts (String.ofList (front ++ name.toList)) = names ++ [name] := by
  rcases slash with rfl | hLast
  · rw [List.nil_append, String.ofList_toList, parts_of_isName hName]
    exact ⟨[], rfl⟩
  · obtain ⟨before, rfl⟩ := List.getLast?_eq_some_iff.mp hLast
    have hText : (before ++ ['/'] ++ name.toList) = before ++ '/' :: name.toList := by simp
    rw [parts_eq, String.toList_ofList, hText, List.splitOn_append_cons_self,
      List.filterMap_append, ← parts_eq name, parts_of_isName hName]
    exact ⟨_, rfl⟩

theorem exists_of_locate {front : List Char} (slash : front = [] ∨ front.getLast? = some '/')
    (hName : IsName name) (h : d.locate (String.ofList (front ++ name.toList)) = .ok p) :
    ∃ inside, p = inside ++ [name] := by
  obtain ⟨-, hWalk, -⟩ := locate_eq_ok_iff.mp h
  obtain ⟨names, hParts⟩ := parts_append slash hName
  rw [hParts] at hWalk
  exact exists_of_walk hName.points hWalk

end Disk

namespace Files

open Disk

variable {d d' : Disk} {p q : Place} {path : String}

/-- A text is cut behind the last place of a character. -/
theorem exists_last (stop : Char) (text : List Char) : ∃ front last : List Char,
    text = front ++ last ∧ stop ∉ last ∧ (front = [] ∨ front.getLast? = some stop) ∧
      (text.reverse.takeWhile (· ≠ stop)).reverse = last := by
  have hText : text = (text.reverse.dropWhile (· ≠ stop)).reverse ++
      (text.reverse.takeWhile (· ≠ stop)).reverse := by
    rw [← List.reverse_append, List.takeWhile_append_dropWhile, List.reverse_reverse]
  have hStop := List.head?_dropWhile_not (fun c : Char => decide (c ≠ stop)) text.reverse
  refine ⟨_, _, hText, ?_, ?_, rfl⟩
  · intro hMem
    simpa using List.mem_takeWhile_imp (List.mem_reverse.mp hMem)
  · rw [List.getLast?_reverse]
    generalize text.reverse.dropWhile (· ≠ stop) = back at hStop
    cases back with
    | nil => exact .inl rfl
    | cons c rest => exact .inr (by simpa using hStop)

/-- The file of a record ends in this way, whatever its id and wherever its name is joined. -/
def EndsAsRecord (text : List Char) : Prop := ∃ before, text = before ++ ".json".toList

theorem endsAsRecord_join {name : String} (base : String) (h : EndsAsRecord name.toList) :
    EndsAsRecord (join base name).toList := by
  obtain ⟨before, hName⟩ := h
  unfold join
  split
  · exact ⟨before, hName⟩
  · split
    · exact ⟨base.toList ++ before, by simp [hName]⟩
    · exact ⟨base.toList ++ '/' :: before, by simp [hName]⟩

theorem endsAsRecord_recordPath (kind : RecordKind) (root id : String) :
    EndsAsRecord (recordPath kind root id).toList :=
  endsAsRecord_join _ ⟨id.toList, String.toList_append⟩

theorem endsAsRecord_of_isRecordName {name : String} (h : isRecordName name = true) :
    EndsAsRecord name.toList := by
  obtain ⟨front, last, hText, -, hFront, hLast⟩ := exists_last '.' name.toList
  unfold isRecordName splitName at h
  dsimp only at h
  rw [hLast] at h
  split at h
  · simp at h
  · next hBefore =>
    obtain rfl : last = "json".toList := by simpa using h
    rcases hFront with rfl | hPoint
    · simp [hText] at hBefore
    · obtain ⟨before, rfl⟩ := List.getLast?_eq_some_iff.mp hPoint
      exact ⟨before, by simp [hText]⟩

/-- Whatever the path of a record, its temporary file is told by its name. -/
theorem isTemporary_of_locate (h : d.locate (temporaryPath path) = .ok q) :
    isTemporary q = true := by
  obtain ⟨front, name, hText, hSlash, hFront, hName⟩ := exists_last '/' path.toList
  have hBefore : '/' ∉ (splitName name).1 := by
    unfold splitName
    dsimp only
    split
    · exact hSlash
    · exact fun hMem => hSlash (List.mem_of_mem_take hMem)
  have hIsName : IsName (temporaryName (String.ofList (splitName name).1)) :=
    isName_append (by simpa using hBefore) (by decide)
  have hLeading : path.toList.take (path.length - name.length) = front := by
    have hLength := congrArg List.length hText
    rw [List.length_append, String.length_toList] at hLength
    rw [hText, hLength, Nat.add_sub_cancel, List.take_left]
  have hPath : temporaryPath path =
      String.ofList (front ++ (temporaryName (String.ofList (splitName name).1)).toList) := by
    simp only [temporaryPath, hName, hLeading, temporaryName, String.toList_append,
      String.toList_ofList, List.append_assoc]
  rw [hPath] at h
  obtain ⟨inside, rfl⟩ := exists_of_locate hFront hIsName h
  exact isTemporary_temporaryName inside _

theorem isTemporary_of_endsAsRecord (ends : EndsAsRecord path.toList)
    (h : d.locate path = .ok q) : isTemporary q = false := by
  obtain ⟨front, name, hText, hSlash, hFront, -⟩ := exists_last '/' path.toList
  obtain ⟨before, hRecord⟩ := ends
  obtain ⟨stem, rfl⟩ : ∃ stem, name = stem ++ ".json".toList := by
    rcases List.append_eq_append_iff.mp (hText.symm.trans hRecord) with
      ⟨middle, rfl, hName⟩ | ⟨middle, hBefore, hName⟩
    · exact ⟨middle, hName⟩
    · have hMiddle : middle = [] := by
        by_contra hNonempty
        rcases hFront with rfl | hLast
        · exact hNonempty (List.append_eq_nil_iff.mp hBefore.symm).2
        · rw [hBefore, List.getLast?_append_of_ne_nil _ hNonempty] at hLast
          have hMem : '/' ∈ ".json".toList :=
            hName ▸ List.mem_append_left _ (List.mem_of_getLast? hLast)
          simp at hMem
      exact ⟨[], by rw [hName, hMiddle]; rfl⟩
  have hIsName : IsName (fileName (String.ofList stem)) :=
    isName_append (by simpa using fun hMem => hSlash (List.mem_append_left _ hMem)) (by decide)
  have hPath : path = String.ofList (front ++ (fileName (String.ofList stem)).toList) := by
    rw [← String.toList_inj, hText]
    simp [fileName]
  rw [hPath] at h
  obtain ⟨inside, rfl⟩ := exists_of_locate hFront hIsName h
  exact isTemporary_fileName inside _

section Opening

variable {α : Type} [Record α] {content root : String} {rows : List α}

theorem read_alike (alike : d.Alike d') (ends : EndsAsRecord path.toList)
    (h : d.read path = .ok content) : d'.read path = .ok content := by
  obtain ⟨q, hLocate, hFound⟩ := read_eq_ok_iff.mp h
  have hLasts := isTemporary_of_endsAsRecord ends hLocate
  exact read_eq_ok_iff.mpr ⟨q, alike.locate hLasts hLocate, (alike.find? hLasts).trans hFound⟩

/-- What is kept of sorted names does not depend on the names that are not kept. -/
theorem filter_mergeSort_congr {names names' : List String} {keep : String → Bool}
    (h : names'.filter keep = names.filter keep) :
    (names'.mergeSort fun a b => a ≤ b).filter keep =
      (names.mergeSort fun a b => a ≤ b).filter keep := by
  have hSorted (names : List String) : ((names.mergeSort fun a b => a ≤ b).filter keep).Pairwise
      fun a b => decide (a ≤ b) = true := by
    refine (List.pairwise_mergeSort (fun a b c hab hbc => ?_) (fun a b => ?_) names).filter _
    · exact decide_eq_true (String.le_trans (of_decide_eq_true hab) (of_decide_eq_true hbc))
    · rw [Bool.or_eq_true, decide_eq_true_eq, decide_eq_true_eq]
      exact String.le_total a b
  have hPerm (names : List String) :
      ((names.mergeSort fun a b => a ≤ b).filter keep).Perm (names.filter keep) :=
    (List.mergeSort_perm _ _).filter _
  refine List.Perm.eq_of_pairwise (fun a b _ _ hab hba => ?_) (hSorted names') (hSorted names)
    ((hPerm names').trans (h ▸ (hPerm names).symm))
  exact String.le_antisymm (of_decide_eq_true hab) (of_decide_eq_true hba)

theorem ready_of_load (h : load α d root = (.ok rows, d')) :
    d.makeFoldersAt (folderPath (Record.kind α) root) = (.ok (), d') ∧
      ∃ p, Ready d' (folderPath (Record.kind α) root) p := by
  obtain ⟨hMade, names, found, hList, -⟩ := load_eq_ok h
  obtain ⟨p, hNameable, hFolderAt, -⟩ := list_eq_ok_iff.mp hList
  obtain ⟨hNul, hFolder⟩ := isFolder_of_makeFoldersAt (parts_folderPath_ne_nil _ root) hMade
  exact ⟨hMade, p, hNul, hNameable, hFolder, hFolderAt⟩

theorem loaded_in_place (ready : Ready d (folderPath (Record.kind α) root) p)
    (h : load α d root = (.ok rows, d')) : d' = d := by
  have hMade := (ready_of_load h).1
  rw [makeFoldersAt_of_isFolder ready.nul ready.made] at hMade
  cases hMade
  rfl

theorem load_alike (alike : d.Alike d') (ready : Ready d (folderPath (Record.kind α) root) p)
    (h : load α d root = (.ok rows, d)) : load α d' root = (.ok rows, d') := by
  obtain ⟨-, names, found, hList, hFound, rfl⟩ := load_eq_ok h
  obtain ⟨p', hNameable, hFolderAt, rfl⟩ := list_eq_ok_iff.mp hList
  have hReady := ready.grows alike.grows
  have hList' : d'.list (folderPath (Record.kind α) root) =
      .ok ((d'.namesIn p').mergeSort fun a b => a ≤ b) :=
    list_eq_ok_iff.mpr ⟨p', hNameable, alike.grows.folderAt hFolderAt, rfl⟩
  have hNames := filter_mergeSort_congr (alike.recordNames p')
  have hFound' : readRecords d' (folderPath (Record.kind α) root)
      ((d'.namesIn p').mergeSort fun a b => a ≤ b) = .ok found := by
    rw [readRecords_eq_ok_iff, hNames]
    have hRecord : ∀ name ∈ ((d.namesIn p').mergeSort fun a b => a ≤ b).filter isRecordName,
        isRecordName name = true := fun name hMem => (List.mem_filter.mp hMem).2
    refine ((List.forall₂_and_left _ _).mpr ⟨hRecord, readRecords_eq_ok_iff.mp hFound⟩).imp ?_
    rintro name r ⟨hName, hRead⟩
    obtain ⟨content, hContent, hRecord⟩ := readRecord_eq_ok_iff.mp hRead
    have hEnds := endsAsRecord_join (folderPath (Record.kind α) root)
      (endsAsRecord_of_isRecordName hName)
    exact readRecord_eq_ok_iff.mpr ⟨content, read_alike alike hEnds hContent, hRecord⟩
  exact load_of_readRecords (makeFoldersAt_of_isFolder hReady.nul hReady.made) hList' hFound'

end Opening

end Files

namespace Store

open Disk Files

/-- The folders of a root are there, as they are since it was opened. -/
def Opened (d : Disk) (root : String) : Prop :=
  ∀ kind : RecordKind, ∃ p, Ready d (folderPath kind root) p

variable {d d' : Disk} {root : String}

theorem opened_of_openAt {s : Store} (h : openAt root d = (.ok s, d')) : Opened d' root := by
  obtain ⟨d₁, hProducts, hLeads, -⟩ := exists_loads_of_openAt h
  obtain ⟨-, p, hProductsReady⟩ := ready_of_load hProducts
  obtain ⟨hMade, hLeadsReady⟩ := ready_of_load hLeads
  obtain ⟨q, rfl, -⟩ := exists_around hProductsReady.folderAt
  have hGrows := (changesIn_leads_made hMade hProductsReady.folderAt).grows
  intro kind
  cases kind with
  | product => exact ⟨_, hProductsReady.grows hGrows⟩
  | lead => exact hLeadsReady

/-- Temporary files that are left over change nothing for those who open the disk later. -/
theorem tables_openAt_of_alike (alike : d.Alike d') (opened : Opened d root) {s : Store}
    (h : (openAt root d).1 = .ok s) : ∃ s', (openAt root d').1 = .ok s' ∧ s'.tables = s.tables := by
  obtain ⟨p, hProductsReady⟩ := opened .product
  obtain ⟨q, hLeadsReady⟩ := opened .lead
  have hOpen : openAt root d = (.ok s, (openAt root d).2) := Prod.ext h rfl
  obtain ⟨d₁, hProducts, hLeads, -⟩ := exists_loads_of_openAt hOpen
  obtain rfl : d₁ = d := loaded_in_place hProductsReady hProducts
  have hSame : (openAt root d₁).2 = d₁ := loaded_in_place hLeadsReady hLeads
  rw [hSame] at hLeads
  have hProducts' := load_alike alike hProductsReady hProducts
  have hLeads' := load_alike alike hLeadsReady hLeads
  unfold openAt at h ⊢
  simp only [hProducts, hLeads] at h
  simp only [hProducts', hLeads']
  split at h
  · cases h
  · cases h
  · cases h
    exact ⟨_, rfl, rfl⟩

end Store

end Intake
