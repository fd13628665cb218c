import Intake.Proofs.RecordFiles
import Intake.Proofs.Tables
import Mathlib.Data.List.Perm.Basic

/-! # Loading what is on disk

A folder whose record files are those of some rows is loaded as these rows, put in order. What has
been loaded is on disk in this way, if every file is named for the record in it.
-/

namespace Intake

open Disk

namespace Files

variable {α : Type} [Record α] {d d' : Disk} {root : String} {p : Place} {r : α} {rows : List α}

theorem readRecord_eq_ok_iff {path : String} :
    readRecord d path = .ok r ↔
      ∃ content, d.read path = .ok content ∧ Record.read content = .ok r := by
  unfold readRecord
  cases d.read path with
  | error e => simp
  | ok content =>
    simp only [Except.ok.injEq, exists_eq_left']
    cases (Record.read content : Except Json.Fault α) <;> simp

/-- A record is filed exactly if its file is read as the record. -/
theorem filed_iff_readRecord (ready : Ready d (folderPath (Record.kind α) root) p)
    (plain : IsPlain (Record.id r)) :
    Filed .readable d root p r ↔
      readRecord d (join (folderPath (Record.kind α) root) (fileName (Record.id r))) = .ok r := by
  have hLocate (q : Place) := ready.folderAt.locate_join_iff (q := q) (isName_fileName plain)
  rw [readRecord_eq_ok_iff]
  constructor
  · rintro ⟨-, hFits, content, hFound, hRead⟩
    exact ⟨content, read_eq_ok_iff.mpr ⟨_, (hLocate _).mpr ⟨hFits, rfl⟩, hFound⟩, hRead⟩
  · rintro ⟨content, hContent, hRead⟩
    obtain ⟨q, hPlace, hFound⟩ := read_eq_ok_iff.mp hContent
    obtain ⟨hFits, rfl⟩ := (hLocate q).mp hPlace
    exact ⟨plain, hFits, content, hFound, hRead⟩

/-- The record files of a list of names are read one by one. -/
theorem readRecords_eq_ok_iff {folder : String} {names : List String} :
    readRecords d folder names = .ok rows ↔
      List.Forall₂ (fun name r => readRecord d (join folder name) = .ok r)
        (names.filter isRecordName) rows := by
  induction names generalizing rows with
  | nil =>
    rw [readRecords, Except.ok.injEq, List.filter_nil, List.forall₂_nil_left_iff, eq_comm]
  | cons name names ih =>
    rw [readRecords]
    by_cases hRecord : isRecordName name = true
    · rw [if_pos hRecord, List.filter_cons_of_pos hRecord]
      constructor
      · intro h
        split at h
        · cases h
        · cases h
        · next r rs hRead hRest =>
          cases h
          exact .cons hRead (ih.mp hRest)
      · rintro (_ | ⟨hRead, hRest⟩)
        rw [hRead, ih.mpr hRest]
    · rw [if_neg hRecord, List.filter_cons_of_neg hRecord]
      exact ih

theorem before_trans {t u v : Instant} (h : t.before u = true) (h' : u.before v = true) :
    t.before v = true := by
  simp only [Instant.before, Bool.or_eq_true, Bool.and_eq_true, decide_eq_true_eq] at *
  omega

theorem before_or_eq (t u : Instant) : t.before u = true ∨ t = u ∨ u.before t = true := by
  obtain ⟨s, n⟩ := t
  obtain ⟨s', n'⟩ := u
  simp only [Instant.before, Bool.or_eq_true, Bool.and_eq_true, decide_eq_true_eq,
    Instant.mk.injEq]
  omega

theorem before_irrefl (t : Instant) : t.before t = false := by
  simp [Instant.before]

theorem precedes_iff {r s : α} :
    Record.precedes r s = true ↔ (Record.createdAt r).before (Record.createdAt s) = true ∨
      Record.createdAt r = Record.createdAt s ∧ Record.id r ≤ Record.id s := by
  simp [Record.precedes]

theorem precedes_trans (a b c : α) (h : Record.precedes a b = true)
    (h' : Record.precedes b c = true) : Record.precedes a c = true := by
  rw [precedes_iff] at *
  rcases h with h | ⟨hTime, hId⟩
  · rcases h' with h' | ⟨hTime', -⟩
    · exact .inl (before_trans h h')
    · exact .inl (hTime' ▸ h)
  · rcases h' with h' | ⟨hTime', hId'⟩
    · exact .inl (hTime ▸ h')
    · exact .inr ⟨hTime.trans hTime', String.le_trans hId hId'⟩

theorem precedes_total (a b : α) : (Record.precedes a b || Record.precedes b a) = true := by
  rw [Bool.or_eq_true, precedes_iff, precedes_iff]
  rcases before_or_eq (Record.createdAt a) (Record.createdAt b) with h | h | h
  · exact .inl (.inl h)
  · rcases String.le_total (Record.id a) (Record.id b) with hId | hId
    · exact .inl (.inr ⟨h, hId⟩)
    · exact .inr (.inr ⟨h.symm, hId⟩)
  · exact .inr (.inl h)

theorem id_eq_of_precedes {a b : α} (h : Record.precedes a b = true)
    (h' : Record.precedes b a = true) : Record.id a = Record.id b := by
  rw [precedes_iff] at *
  rcases h with h | ⟨hTime, hId⟩
  · rcases h' with h' | ⟨hTime', -⟩
    · have hSelf := before_trans h h'
      rw [before_irrefl] at hSelf
      cases hSelf
    · rw [hTime', before_irrefl] at h
      cases h
  · rcases h' with h' | ⟨-, hId'⟩
    · rw [hTime, before_irrefl] at h'
      cases h'
    · exact String.le_antisymm hId hId'

theorem sorted_perm (rows : List α) : (sorted rows).Perm rows := List.mergeSort_perm rows _

theorem sorted_pairwise (rows : List α) :
    (sorted rows).Pairwise fun r s => Record.precedes r s = true :=
  List.pairwise_mergeSort precedes_trans precedes_total rows

/-- Records with ids of their own have one order only. -/
theorem sorted_eq_of_perm {rows' : List α} (distinct : (rows.map Record.id).Nodup)
    (h : rows'.Perm rows) : sorted rows' = sorted rows := by
  refine List.Perm.eq_of_pairwise ?_ (sorted_pairwise rows') (sorted_pairwise rows)
    ((sorted_perm rows').trans (h.trans (sorted_perm rows).symm))
  intro a b ha hb hab hba
  exact List.inj_on_of_nodup_map distinct (h.subset ((sorted_perm rows').subset ha))
    ((sorted_perm rows).subset hb) (id_eq_of_precedes hab hba)

theorem load_of_readRecords {names : List String}
    (made : d.makeFoldersAt (folderPath (Record.kind α) root) = (.ok (), d))
    (listed : d.list (folderPath (Record.kind α) root) = .ok names)
    (read : readRecords d (folderPath (Record.kind α) root) names = .ok rows) :
    load α d root = (.ok (sorted rows), d) := by
  unfold load
  dsimp only
  rw [made]
  dsimp only
  rw [listed]
  dsimp only
  rw [read, Except.map]

/-- The rows on disk are what is loaded, in order, and loading leaves the disk as it is. -/
theorem Holds.load (h : Holds .readable d root p rows) (distinct : (rows.map Record.id).Nodup) :
    load α d root = (.ok (sorted rows), d) := by
  have hList : d.list (folderPath (Record.kind α) root) =
      .ok ((d.namesIn p).mergeSort fun a b => a ≤ b) :=
    list_eq_ok_iff.mpr ⟨p, h.ready.nameable, h.ready.folderAt, rfl⟩
  have hNames : (((d.namesIn p).mergeSort fun a b => a ≤ b).filter isRecordName).Perm
      (rows.map fun r => fileName (Record.id r)) :=
    ((List.mergeSort_perm _ _).filter _).trans h.names
  have hMake : d.makeFoldersAt (folderPath (Record.kind α) root) = (.ok (), d) :=
    makeFoldersAt_of_isFolder h.ready.nul h.ready.made
  -- Names are listed in the order of names, rows stand in that of their writing.
  obtain ⟨found, hFound, hPerm⟩ : ∃ found, readRecords d (folderPath (Record.kind α) root)
      ((d.namesIn p).mergeSort fun a b => a ≤ b) = .ok found ∧ found.Perm rows := by
    have hRows : List.Forall₂
        (fun name r => readRecord d (join (folderPath (Record.kind α) root) name) = .ok r)
        (rows.map fun r => fileName (Record.id r)) rows := by
      rw [List.forall₂_map_left_iff, List.forall₂_same]
      intro r hMem
      have hFiled := h.each r hMem
      exact (filed_iff_readRecord h.ready hFiled.plain).mp hFiled
    obtain ⟨found, hFound, hPerm⟩ := List.perm_comp_forall₂ hNames hRows
    exact ⟨found, readRecords_eq_ok_iff.mpr hFound, hPerm⟩
  rw [load_of_readRecords hMake hList hFound, sorted_eq_of_perm distinct hPerm]

end Files

end Intake
