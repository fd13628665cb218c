import Intake.Proofs.RecordNames
import Intake.Table

/-! # Record files on disk

What the files of one kind of records are to be, and what saving and deleting make of them. Each
record lies in the file of its name, and there is no other record file.
-/

namespace Intake

open Disk

namespace Disk

variable {d d' : Disk} {p q : Place} {name : String}

/-- Nothing right inside a folder changes but what is in one of them, and no folder goes away. -/
structure ChangesIn (d d' : Disk) (p : Place) : Prop where
  grows : d.Grows d'
  names : ∀ q ≠ p, d'.namesIn q = d.namesIn q
  found : ∀ q ≠ p, ∀ name, d'.find? (q ++ [name]) = d.find? (q ++ [name])

theorem append_singleton_ne {other : String} (h : q ≠ p) : q ++ [other] ≠ p ++ [name] := by
  intro hSame
  exact h (List.append_inj_left' hSame rfl)

theorem ChangesIn.trans {d'' : Disk} (first : d.ChangesIn d' p) (second : d'.ChangesIn d'' p) :
    d.ChangesIn d'' p where
  grows := ⟨first.grows.1.trans second.grows.1, fun q h => second.grows.2 q (first.grows.2 q h)⟩
  names q h := (second.names q h).trans (first.names q h)
  found q h name := (second.found q h name).trans (first.found q h name)

theorem changesIn_set (entry : Entry)
    (unfolder : d.find? (p ++ [name]) = some .folder → entry = .folder) :
    d.ChangesIn (d.set (p ++ [name]) entry) p where
  grows := by
    refine ⟨(here_set d _ _).symm, fun q hFolder => ?_⟩
    rw [find?_set d (by simp)]
    split
    · next hSame => rw [unfolder (hSame ▸ hFolder)]
    · exact hFolder
  names q h := namesIn_set_of_ne d (by simpa using Ne.symm h) entry
  found q h other := by rw [find?_set d (by simp), if_neg (append_singleton_ne h)]

theorem changesIn_erase (unfolder : d.find? (p ++ [name]) ≠ some .folder) :
    d.ChangesIn (d.erase (p ++ [name])) p where
  grows := by
    refine ⟨rfl, fun q hFolder => ?_⟩
    rw [find?_erase d (by simp)]
    split
    · next hSame => exact absurd (hSame ▸ hFolder) unfolder
    · exact hFolder
  names q h := namesIn_erase_of_ne d (by simpa using Ne.symm h)
  found q h other := by rw [find?_erase d (by simp), if_neg (append_singleton_ne h)]

end Disk

namespace Files

/-- What is known of the text in a record file: it is what is written of the record, or it is read
as the record. -/
inductive Form where
  | written
  | readable

def Form.Tells {α : Type} [Record α] : Form → α → String → Prop
  | written, r, content => content = Record.fileText r
  | readable, r, content => Record.read content = .ok r

variable {α : Type} [Record α] {form : Form} {d d' : Disk} {root id content : String} {p : Place}
  {r : α} {rows : List α}

/-- A folder of records that is there, so that it is not made again. -/
structure Ready (d : Disk) (path : String) (p : Place) : Prop where
  nul : '\x00' ∉ path.toList
  nameable : Nameable path
  made : d.isFolder (rebuilt path) = true
  folderAt : d.FolderAt path p

theorem Ready.grows {path : String} (h : Ready d path p) (grows : d.Grows d') :
    Ready d' path p :=
  ⟨h.nul, h.nameable, grows.isFolder h.made, grows.folderAt h.folderAt⟩

/-- The record lies whole in the file of its name. -/
structure Filed (form : Form) (d : Disk) (root : String) (p : Place) (r : α) : Prop where
  plain : IsPlain (Record.id r)
  fits : Fits (folderPath (Record.kind α) root) (fileName (Record.id r))
  content : ∃ content, d.find? (p ++ [fileName (Record.id r)]) = some (.file (.text content)) ∧
    form.Tells r content

/-- The record files of a folder are those of the rows. -/
structure Holds (form : Form) (d : Disk) (root : String) (p : Place) (rows : List α) : Prop where
  ready : Ready d (folderPath (Record.kind α) root) p
  names : ((d.namesIn p).filter isRecordName).Perm (rows.map fun r => fileName (Record.id r))
  each : ∀ r ∈ rows, Filed form d root p r

theorem Holds.frame {q : Place} (h : Holds form d root p rows) (changes : d.ChangesIn d' q)
    (other : p ≠ q) : Holds form d' root p rows where
  ready := h.ready.grows changes.grows
  names := by
    rw [changes.names p other]
    exact h.names
  each r hMem := by
    obtain ⟨hPlain, hFits, hContent⟩ := h.each r hMem
    refine ⟨hPlain, hFits, ?_⟩
    rw [changes.found p other]
    exact hContent

/-- What is known of the texts may be said in the other way, if it follows. -/
theorem Holds.reform {form' : Form} (h : Holds form d root p rows)
    (follows : ∀ r ∈ rows, ∀ content, form.Tells r content → form'.Tells r content) :
    Holds form' d root p rows where
  ready := h.ready
  names := h.names
  each r hMem := by
    obtain ⟨hPlain, hFits, content, hFound, hTells⟩ := h.each r hMem
    exact ⟨hPlain, hFits, content, hFound, follows r hMem content hTells⟩

/-- Files as they were written are read as what their texts are read as. -/
theorem Holds.reread {f : α → α} (h : Holds .written d root p rows)
    (ids : ∀ r, Record.id (f r) = Record.id r)
    (reads : ∀ r ∈ rows, Record.read (Record.fileText r) = .ok (f r)) :
    Holds .readable d root p (rows.map f) where
  ready := h.ready
  names := by
    rw [List.map_map]
    simpa only [Function.comp_def, ids] using h.names
  each := by
    refine List.forall_mem_map.mpr fun r hMem => ?_
    obtain ⟨hPlain, hFits, content, hFound, rfl⟩ := h.each r hMem
    rw [← ids r] at hPlain hFits hFound
    exact ⟨hPlain, hFits, _, hFound, reads r hMem⟩

section Saving

/-- The disk after a record has been written to its temporary file and renamed. -/
def filed (d : Disk) (p : Place) (id content : String) : Disk :=
  ((d.set (p ++ [temporaryName id]) (.file (.text content))).erase (p ++ [temporaryName id])).set
    (p ++ [fileName id]) (.file (.text content))

theorem temporaryName_ne (plain : IsPlain id) (other : String) :
    temporaryName other ≠ fileName id := by
  intro hSame
  have hRecord := isRecordName_fileName plain
  rw [← hSame, isRecordName_temporaryName] at hRecord
  cases hRecord

theorem find?_filed (d : Disk) (p : Place) (id content : String) (name : String)
    (other : name ≠ temporaryName id) :
    (filed d p id content).find? (p ++ [name]) =
      if name = fileName id then some (.file (.text content)) else d.find? (p ++ [name]) := by
  have hTemporary : p ++ [name] ≠ p ++ [temporaryName id] := by simpa using other
  unfold filed
  rw [find?_set _ (by simp), find?_erase _ (by simp), find?_set _ (by simp), if_neg hTemporary,
    if_neg hTemporary]
  simp

theorem changesIn_filed (content : String)
    (temporary : d.find? (p ++ [temporaryName id]) ≠ some .folder)
    (record : d.find? (p ++ [fileName id]) ≠ some .folder) (plain : IsPlain id) :
    d.ChangesIn (filed d p id content) p := by
  have hOther : p ++ [fileName id] ≠ p ++ [temporaryName id] := by
    simpa using Ne.symm (temporaryName_ne plain id)
  refine (changesIn_set _ fun h => absurd h temporary).trans
    ((changesIn_erase ?_).trans (changesIn_set _ fun h => absurd h ?_))
  · rw [find?_set _ (by simp), if_pos rfl]
    nofun
  · rw [find?_erase _ (by simp), find?_set _ (by simp), if_neg hOther, if_neg hOther]
    exact record

/-- Only the name of the record comes to the names of record files. -/
theorem names_filed (d : Disk) (p : Place) (content : String) (plain : IsPlain id) :
    ((filed d p id content).namesIn p).filter isRecordName =
      if fileName id ∈ d.namesIn p then (d.namesIn p).filter isRecordName
      else (d.namesIn p).filter isRecordName ++ [fileName id] := by
  have hTemporary : isRecordName (temporaryName id) = false := isRecordName_temporaryName id
  have hRecord : isRecordName (fileName id) = true := isRecordName_fileName plain
  have hOther : fileName id ≠ temporaryName id := Ne.symm (temporaryName_ne plain id)
  have hErase (names : List String) :
      (names.filter (· ≠ temporaryName id)).filter isRecordName = names.filter isRecordName := by
    rw [List.filter_filter]
    congr 1
    funext name
    by_cases hName : name = temporaryName id
    · simp [hName, hTemporary]
    · simp [hName]
  have hWritten : (((d.set (p ++ [temporaryName id]) (.file (.text content))).namesIn p).filter
      isRecordName) = (d.namesIn p).filter isRecordName := by
    rw [namesIn_set]
    split
    · rfl
    · simp [hTemporary]
  have hMem : fileName id ∈ ((d.set (p ++ [temporaryName id]) (.file (.text content))).erase
      (p ++ [temporaryName id])).namesIn p ↔ fileName id ∈ d.namesIn p := by
    rw [mem_namesIn_iff_find?, mem_namesIn_iff_find?, find?_erase _ (by simp),
      find?_set _ (by simp)]
    simp [hOther]
  unfold filed
  rw [namesIn_set]
  simp only [hMem]
  split
  · rw [namesIn_erase, hErase, hWritten]
  · rw [List.filter_append, namesIn_erase, hErase, hWritten]
    simp [hRecord]

/-- Saving that succeeds has put the record in place, and neither path was one of a folder. -/
theorem save_eq_ok {b b' : Backing} (h : save b r = (.ok (), b')) (device : b.device = perform)
    (ready : Ready b.disk (folderPath (Record.kind α) b.root) p) (plain : IsPlain (Record.id r)) :
    b' = { b with disk := filed b.disk p (Record.id r) (Record.fileText r) } ∧
      Fits (folderPath (Record.kind α) b.root) (fileName (Record.id r)) ∧
      b.disk.find? (p ++ [temporaryName (Record.id r)]) ≠ some .folder ∧
      b.disk.find? (p ++ [fileName (Record.id r)]) ≠ some .folder := by
  obtain ⟨root, disk, device'⟩ := b
  obtain rfl : device' = perform := device
  have hTemporary : temporaryPath (recordPath (Record.kind α) root (Record.id r)) =
      join (folderPath (Record.kind α) root) (temporaryName (Record.id r)) :=
    temporaryPath_join _ plain
  unfold save saveSteps at h
  dsimp only at h ready ⊢
  rw [hTemporary] at h
  split at h
  · cases h
  · next d₁ hWritten =>
    split at h
    · cases h
    · next d₂ hRenamed =>
      cases h
      obtain ⟨q, hSource, hNoFolder, rfl⟩ := write_eq_ok_iff.mp (perform_write_iff.mp hWritten)
      obtain ⟨-, rfl⟩ :=
        (ready.folderAt.locate_join_iff (isName_temporaryName plain)).mp hSource
      have hChanges := changesIn_set (.file (.text (Record.fileText r)))
        fun h => absurd h hNoFolder
      have hReady := ready.grows hChanges.grows
      obtain ⟨q, t, content, hSource, hTarget, hFile, hOther, rfl⟩ :=
        rename_eq_ok (perform_rename_iff.mp hRenamed)
      obtain ⟨-, rfl⟩ :=
        (hReady.folderAt.locate_join_iff (isName_temporaryName plain)).mp hSource
      obtain ⟨hFits, rfl⟩ := (hReady.folderAt.locate_join_iff (isName_fileName plain)).mp hTarget
      -- What is renamed is the file that has just been written, and not what stood at its target.
      have hNames : p ++ [fileName (Record.id r)] ≠ p ++ [temporaryName (Record.id r)] := by
        simpa using Ne.symm (temporaryName_ne plain _)
      rw [find?_set _ (by simp), if_pos rfl] at hFile
      rw [find?_set _ (by simp), if_neg hNames] at hOther
      cases hFile
      exact ⟨rfl, hFits, hNoFolder, hOther⟩

/-- A record that was filed is filed still when another one is saved. -/
theorem Filed.filed_other {s : α} (h : Filed form d root p s) (other : Record.id s ≠ id) :
    Filed form (filed d p id content) root p s := by
  obtain ⟨hPlain, hFits, content', hFound, hRead⟩ := h
  refine ⟨hPlain, hFits, content', ?_, hRead⟩
  rw [find?_filed d p id content _ (Ne.symm (temporaryName_ne hPlain id)), if_neg, hFound]
  exact fun hSame => other (fileName_injective hSame)

theorem filed_self (plain : IsPlain (Record.id r))
    (fits : Fits (folderPath (Record.kind α) root) (fileName (Record.id r)))
    (tells : form.Tells r content) :
    Filed form (filed d p (Record.id r) content) root p r := by
  refine ⟨plain, fits, content, ?_, tells⟩
  rw [find?_filed d p _ content _ (Ne.symm (temporaryName_ne plain _)), if_pos rfl]

theorem Holds.mem_namesIn_iff (h : Holds form d root p rows) (plain : IsPlain id) :
    fileName id ∈ d.namesIn p ↔ id ∈ rows.map Record.id := by
  have hMem : fileName id ∈ (d.namesIn p).filter isRecordName ↔ fileName id ∈ d.namesIn p := by
    rw [List.mem_filter, isRecordName_fileName plain]
    simp
  rw [← hMem, h.names.mem_iff, List.mem_map, List.mem_map]
  constructor
  · rintro ⟨r, hr, hName⟩
    exact ⟨r, hr, fileName_injective hName⟩
  · rintro ⟨r, hr, rfl⟩
    exact ⟨r, hr, rfl⟩

variable {b b' : Backing}

/-- A new record comes to the record files of its folder. -/
theorem Holds.save_new (h : Holds form b.disk b.root p rows) (device : b.device = perform)
    (saved : save b r = (.ok (), b')) (plain : IsPlain (Record.id r))
    (tells : form.Tells r (Record.fileText r)) (fresh : Record.id r ∉ rows.map Record.id) :
    Holds form b'.disk b.root p (rows ++ [r]) ∧ b.disk.ChangesIn b'.disk p := by
  obtain ⟨rfl, hFits, hTemporary, hRecord⟩ := save_eq_ok saved device h.ready plain
  have hChanges := changesIn_filed (Record.fileText r) hTemporary hRecord plain
  refine ⟨⟨h.ready.grows hChanges.grows, ?_, ?_⟩, hChanges⟩
  · dsimp only
    rw [names_filed _ _ _ plain, if_neg (mt (h.mem_namesIn_iff plain).mp fresh), List.map_append]
    exact h.names.append_right _
  · intro s hs
    rcases List.mem_append.mp hs with hs | hs
    · refine (h.each s hs).filed_other fun hSame => fresh ?_
      exact hSame ▸ List.mem_map_of_mem hs
    · rw [List.mem_singleton.mp hs]
      exact filed_self plain hFits tells

/-- A record that is saved again takes the place of the one with its id. -/
theorem Holds.save_again (h : Holds form b.disk b.root p rows) (device : b.device = perform)
    (saved : save b r = (.ok (), b')) (tells : form.Tells r (Record.fileText r))
    (known : Record.id r ∈ rows.map Record.id) :
    Holds form b'.disk b.root p (rows.map (Table.put r)) ∧ b.disk.ChangesIn b'.disk p := by
  obtain ⟨old, hOld, hId⟩ := List.mem_map.mp known
  have hPlain : IsPlain (Record.id r) := hId ▸ (h.each old hOld).plain
  obtain ⟨rfl, hFits, hTemporary, hRecord⟩ := save_eq_ok saved device h.ready hPlain
  have hChanges := changesIn_filed (Record.fileText r) hTemporary hRecord hPlain
  refine ⟨⟨h.ready.grows hChanges.grows, ?_, ?_⟩, hChanges⟩
  · dsimp only
    rw [names_filed _ _ _ hPlain, if_pos ((h.mem_namesIn_iff hPlain).mpr known), List.map_map]
    simpa [Function.comp_def, Table.id_put] using h.names
  · rintro _ hPut
    obtain ⟨s, hs, rfl⟩ := List.mem_map.mp hPut
    by_cases hSame : Record.id s = Record.id r
    · rw [Table.put, if_pos hSame]
      exact filed_self hPlain hFits tells
    · rw [Table.put, if_neg hSame]
      exact (h.each s hs).filed_other hSame

/-- A record that is deleted is gone from the record files, and nothing else is. -/
theorem Holds.delete (h : Holds form b.disk b.root p rows) (device : b.device = perform)
    (deleted : Files.delete (Record.kind α) b id = (.ok (), b')) (known : id ∈ rows.map Record.id) :
    Holds form b'.disk b.root p (rows.filter fun r => Record.id r ≠ id) ∧
      b.disk.ChangesIn b'.disk p := by
  -- The file of a known id is there, so that removing it is not passed over as missing.
  obtain ⟨old, hOld, rfl⟩ := List.mem_map.mp known
  obtain ⟨hPlain, hFits, content, hFound, -⟩ := h.each old hOld
  have hLocate : b.disk.locate (recordPath (Record.kind α) b.root (Record.id old)) =
      .ok (p ++ [fileName (Record.id old)]) :=
    (h.ready.folderAt.locate_join_iff (isName_fileName hPlain)).mpr ⟨hFits, rfl⟩
  have hRemoved : perform (.remove (recordPath (Record.kind α) b.root (Record.id old))) b.disk =
      (.ok (), b.disk.erase (p ++ [fileName (Record.id old)])) :=
    perform_remove_iff.mpr (remove_eq_ok_iff.mpr ⟨_, _, hLocate, hFound, rfl⟩)
  unfold Files.delete at deleted
  dsimp only at deleted
  rw [device, hRemoved] at deleted
  cases deleted
  have hChanges : b.disk.ChangesIn (b.disk.erase (p ++ [fileName (Record.id old)])) p := by
    refine changesIn_erase ?_
    rw [hFound]
    nofun
  refine ⟨⟨h.ready.grows hChanges.grows, ?_, ?_⟩, hChanges⟩
  · dsimp only
    have hRows : (rows.map fun r => fileName (Record.id r)).filter
        (· ≠ fileName (Record.id old)) =
        (rows.filter fun r => Record.id r ≠ Record.id old).map fun r => fileName (Record.id r) := by
      have hIff (r : α) : fileName (Record.id r) = fileName (Record.id old) ↔
          Record.id r = Record.id old := ⟨fileName_injective, congrArg fileName⟩
      rw [List.filter_map]
      simp only [Function.comp_def, ne_eq, hIff]
    rw [namesIn_erase, List.filter_comm, ← hRows]
    exact h.names.filter _
  · intro s hs
    obtain ⟨hs, hOther⟩ := List.mem_filter.mp hs
    obtain ⟨hPlain', hFits', content', hFound', hRead⟩ := h.each s hs
    refine ⟨hPlain', hFits', content', ?_, hRead⟩
    have hName : p ++ [fileName (Record.id s)] ≠ p ++ [fileName (Record.id old)] := by
      have hIds : Record.id s ≠ Record.id old := by simpa using hOther
      simpa using fun hSame => hIds (fileName_injective hSame)
    rw [find?_erase _ (by simp), if_neg hName]
    exact hFound'

end Saving

end Files

end Intake
