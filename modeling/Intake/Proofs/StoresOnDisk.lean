import Intake.Proofs.Loading

/-! # Stores on disk

A store is on disk if its tables hold what the record files hold. It remains so whatever is
inserted, updated and deleted, as long as the disk does not fail, and it answers what a store
without a backing answers. Opening the disk again gives the same records.
-/

namespace Intake

open Files

namespace Files

variable {α : Type} [Record α]

theorem disk_of_save_error {b b' : Backing} {r : α} {e : StorageError}
    (h : save b r = (.error e, b')) : ∃ task path cause, e = .disk task path cause := by
  unfold save at h
  dsimp only at h
  split at h
  · cases h
    exact ⟨_, _, _, rfl⟩
  · split at h
    · cases h
      exact ⟨_, _, _, rfl⟩
    · cases h

theorem disk_of_delete_error {b b' : Backing} {kind : RecordKind} {id : String}
    {e : StorageError} (h : delete kind b id = (.error e, b')) :
    ∃ task path cause, e = .disk task path cause := by
  unfold delete at h
  dsimp only at h
  split at h
  · cases h
  · cases h
  · cases h
    exact ⟨_, _, _, rfl⟩

theorem backing_of_save {b b' : Backing} {r : α} {result : Except StorageError Unit}
    (h : save b r = (result, b')) : b' = { b with disk := b'.disk } := by
  unfold save at h
  dsimp only at h
  split at h
  · cases h
    rfl
  · split at h <;> cases h <;> rfl

theorem backing_of_delete {b b' : Backing} {kind : RecordKind} {id : String}
    {result : Except StorageError Unit} (h : delete kind b id = (result, b')) :
    b' = { b with disk := b'.disk } := by
  unfold delete at h
  dsimp only at h
  split at h <;> cases h <;> rfl

end Files

namespace Store

/-- A result that is no error of the disk. -/
def Undisturbed {β : Type} (result : Except StorageError β) : Prop :=
  ∀ task path cause, result ≠ .error (.disk task path cause)

/-- The same tables without a backing. -/
def inMemory (s : Store) : Store := { tables := s.tables }

section Steps

variable {α : Type} [Stored α] {s : Store} {r : α} {t : Table α} {id : String}

theorem save_undisturbed {b : Backing} (backing : s.backing? = some b)
    (undisturbed : Undisturbed (s.save r t).1) :
    ∃ b', Files.save b r = (.ok (), b') ∧
      s.save r t = (.ok (), { s with backing? := some b' }.withTable t) := by
  unfold Store.save at undisturbed ⊢
  rw [backing] at undisturbed ⊢
  dsimp only at undisturbed ⊢
  cases hSaved : Files.save b r with
  | mk result b' =>
    rw [hSaved] at undisturbed
    cases result with
    | ok => exact ⟨b', rfl, rfl⟩
    | error e =>
      obtain ⟨task, path, cause, rfl⟩ := disk_of_save_error hSaved
      exact absurd rfl (undisturbed task path cause)

theorem delete_undisturbed {b : Backing} (backing : s.backing? = some b)
    (undisturbed : Undisturbed (s.delete α id).1)
    (known : (Stored.table s.tables : Table α).contains id = true) :
    ∃ b', Files.delete (Record.kind α) b id = (.ok (), b') ∧
      s.delete α id = (.ok (), { s with backing? := some b' }.withTable
        ((Stored.table s.tables : Table α).remove id)) := by
  unfold Store.delete at undisturbed ⊢
  dsimp only at undisturbed ⊢
  rw [if_pos known, backing] at undisturbed ⊢
  dsimp only at undisturbed ⊢
  cases hDeleted : Files.delete (Record.kind α) b id with
  | mk result b' =>
    rw [hDeleted] at undisturbed
    cases result with
    | ok => exact ⟨b', rfl, rfl⟩
    | error e =>
      obtain ⟨task, path, cause, rfl⟩ := disk_of_delete_error hDeleted
      exact absurd rfl (undisturbed task path cause)

theorem delete_of_not_contains (unknown : (Stored.table s.tables : Table α).contains id = false) :
    s.delete α id = (.error (missing α id), s) := by
  unfold Store.delete
  dsimp only
  rw [if_neg (by simp [unknown])]

/-- Nothing but the disk tells a store with a backing from one without. -/
theorem save_inMemory (undisturbed : Undisturbed (s.save r t).1) :
    s.inMemory.save r t = ((s.save r t).1, (s.save r t).2.inMemory) := by
  cases hBacking : s.backing? with
  | none =>
    unfold Store.save
    rw [hBacking]
    rfl
  | some b =>
    obtain ⟨b', -, hSave⟩ := save_undisturbed hBacking undisturbed
    rw [hSave]
    rfl

theorem insert_inMemory (undisturbed : Undisturbed (s.insert r).1) :
    s.inMemory.insert r = ((s.insert r).1, (s.insert r).2.inMemory) := by
  unfold Store.insert at undisturbed ⊢
  rw [show s.inMemory.tables = s.tables from rfl]
  cases hInsert : (Stored.table s.tables).insert? r with
  | none => rfl
  | some t =>
    rw [hInsert] at undisturbed
    exact save_inMemory undisturbed

theorem update_inMemory (undisturbed : Undisturbed (s.update r).1) :
    s.inMemory.update r = ((s.update r).1, (s.update r).2.inMemory) := by
  unfold Store.update at undisturbed ⊢
  dsimp only at undisturbed ⊢
  rw [show s.inMemory.tables = s.tables from rfl]
  split at undisturbed
  · next hKnown =>
    rw [if_pos hKnown, if_pos hKnown]
    exact save_inMemory undisturbed
  · next hUnknown =>
    rw [if_neg hUnknown, if_neg hUnknown]

theorem delete_inMemory (undisturbed : Undisturbed (s.delete α id).1) :
    s.inMemory.delete α id = ((s.delete α id).1, (s.delete α id).2.inMemory) := by
  -- A record that is not in the table is missing with and without a disk, whatever files there are.
  cases hKnown : (Stored.table s.tables : Table α).contains id with
  | false => rw [delete_of_not_contains hKnown, delete_of_not_contains (s := s.inMemory) hKnown]
  | true =>
    have hMemory : s.inMemory.delete α id =
        (.ok (), s.inMemory.withTable ((Stored.table s.tables : Table α).remove id)) :=
      if_pos hKnown
    cases hBacking : s.backing? with
    | none =>
      have hDelete : s.delete α id =
          (.ok (), s.withTable ((Stored.table s.tables : Table α).remove id)) := by
        unfold Store.delete
        dsimp only
        rw [if_pos hKnown, hBacking]
      rw [hDelete, hMemory]
      rfl
    | some b =>
      obtain ⟨b', -, hDelete⟩ := delete_undisturbed hBacking undisturbed hKnown
      rw [hDelete, hMemory]
      rfl

end Steps

/-- A call that does not fail at the disk gives what it gives without a backing. -/
theorem perform_inMemory {β : Type} (c : StoreCall β) (s : Store)
    (undisturbed : Undisturbed (perform c s).1) :
    perform c s.inMemory = ((perform c s).1, (perform c s).2.inMemory) := by
  cases c with
  | insertProduct p => exact insert_inMemory undisturbed
  | updateProduct p => exact update_inMemory undisturbed
  | deleteProduct id => exact delete_inMemory undisturbed
  | insertLead l => exact insert_inMemory undisturbed
  | updateLead l => exact update_inMemory undisturbed
  | deleteLead id => exact delete_inMemory undisturbed
  | getProduct | listProducts | countProducts | getLead | listLeads | countLeads => rfl

/-- The tables hold what the record files below the root hold. -/
structure OnDisk (form : Form) (s : Store) (root : String) (q : Place) (d : Disk) : Prop where
  backing : s.backing? = some { root := root, disk := d }
  products : Holds form d root (q ++ [RecordKind.product.folder]) s.tables.products.rows
  leads : Holds form d root (q ++ [RecordKind.lead.folder]) s.tables.leads.rows

theorem OnDisk.reform {form form' : Form} {s : Store} {root : String} {q : Place} {d : Disk}
    (h : OnDisk form s root q d)
    (products : ∀ p ∈ s.tables.products.rows, ∀ content,
      form.Tells p content → form'.Tells p content)
    (leads : ∀ l ∈ s.tables.leads.rows, ∀ content, form.Tells l content → form'.Tells l content) :
    OnDisk form' s root q d :=
  ⟨h.backing, h.products.reform products, h.leads.reform leads⟩

/-- What a store becomes when records of one kind are written to disk. -/
def Wrote (α : Type) [Stored α] (form : Form) (s : Store) (root : String) (p : Place) (d : Disk)
    (s' : Store) : Prop :=
  ∃ (t : Table α) (d' : Disk), s' =
      { s with backing? := some { root := root, disk := d' } }.withTable t ∧
    Holds form d' root p t.rows ∧ d.ChangesIn d' p

section Writing

variable {α : Type} [Stored α] {form : Form} {s : Store} {root : String} {d : Disk} {p : Place}
  {r : α} (backing : s.backing? = some { root := root, disk := d })
  (holds : Holds form d root p (Stored.table s.tables : Table α).rows)
include backing holds

theorem wrote_of_insert (plain : IsPlain (Record.id r))
    (tells : form.Tells r (Record.fileText r))
    (undisturbed : Undisturbed (s.insert r).1) :
    (s.insert r).2 = s ∨ Wrote α form s root p d (s.insert r).2 := by
  unfold Store.insert at undisturbed ⊢
  cases hInsert : (Stored.table s.tables).insert? r with
  | none => exact .inl rfl
  | some t =>
    rw [hInsert] at undisturbed
    obtain ⟨b', hSaved, hSave⟩ := save_undisturbed backing undisturbed
    obtain ⟨hFresh, hRows⟩ := Table.insert?_eq_some_iff.mp hInsert
    have hFresh : Record.id r ∉ (Stored.table s.tables : Table α).rows.map Record.id := by
      simpa [Table.contains] using hFresh
    obtain ⟨hHolds, hChanges⟩ := holds.save_new rfl hSaved plain tells hFresh
    refine .inr ⟨t, b'.disk, ?_, hRows ▸ hHolds, hChanges⟩
    dsimp only
    rw [hSave, ← backing_of_save hSaved]

theorem wrote_of_update (tells : form.Tells r (Record.fileText r))
    (undisturbed : Undisturbed (s.update r).1) :
    (s.update r).2 = s ∨ Wrote α form s root p d (s.update r).2 := by
  unfold Store.update at undisturbed ⊢
  dsimp only at undisturbed ⊢
  split at undisturbed
  · next hKnown =>
    rw [if_pos hKnown]
    obtain ⟨b', hSaved, hSave⟩ := save_undisturbed backing undisturbed
    obtain ⟨hHolds, hChanges⟩ := holds.save_again rfl hSaved tells (of_decide_eq_true hKnown)
    refine .inr ⟨(Stored.table s.tables : Table α).replace r, b'.disk, ?_, hHolds, hChanges⟩
    rw [hSave, ← backing_of_save hSaved]
  · next hUnknown =>
    rw [if_neg hUnknown]
    exact .inl rfl

theorem wrote_of_delete {id : String} (undisturbed : Undisturbed (s.delete α id).1) :
    (s.delete α id).2 = s ∨ Wrote α form s root p d (s.delete α id).2 := by
  cases hKnown : (Stored.table s.tables : Table α).contains id with
  | false =>
    rw [delete_of_not_contains hKnown]
    exact .inl rfl
  | true =>
    obtain ⟨b', hDeleted, hDelete⟩ := delete_undisturbed backing undisturbed hKnown
    obtain ⟨hHolds, hChanges⟩ := holds.delete rfl hDeleted (of_decide_eq_true hKnown)
    refine .inr ⟨(Stored.table s.tables : Table α).remove id, b'.disk, ?_, hHolds, hChanges⟩
    rw [hDelete, ← backing_of_delete hDeleted]

end Writing

section Calls

variable {form : Form} {s s' : Store} {root : String} {d : Disk} {q : Place}

theorem folders_ne (q : Place) :
    q ++ [RecordKind.product.folder] ≠ q ++ [RecordKind.lead.folder] := by
  simp [RecordKind.folder]

theorem OnDisk.wrote_products (h : OnDisk form s root q d)
    (wrote : s' = s ∨ Wrote Product form s root (q ++ [RecordKind.product.folder]) d s') :
    ∃ d', OnDisk form s' root q d' := by
  rcases wrote with rfl | ⟨t, d', rfl, hHolds, hChanges⟩
  · exact ⟨d, h⟩
  · exact ⟨d', rfl, hHolds, h.leads.frame hChanges (folders_ne q).symm⟩

theorem OnDisk.wrote_leads (h : OnDisk form s root q d)
    (wrote : s' = s ∨ Wrote Lead form s root (q ++ [RecordKind.lead.folder]) d s') :
    ∃ d', OnDisk form s' root q d' := by
  rcases wrote with rfl | ⟨t, d', rfl, hHolds, hChanges⟩
  · exact ⟨d, h⟩
  · exact ⟨d', rfl, h.products.frame hChanges (folders_ne q), hHolds⟩

end Calls

end Store

/-- A call that adds records only under names for a file, and writes only what tells of them. -/
def StoreCall.Fits (form : Form) : {β : Type} → StoreCall β → Prop
  | _, insertProduct p => IsPlain p.id ∧ form.Tells p (Record.fileText p)
  | _, updateProduct p => form.Tells p (Record.fileText p)
  | _, insertLead l => IsPlain l.id ∧ form.Tells l (Record.fileText l)
  | _, updateLead l => form.Tells l (Record.fileText l)
  | _, _ => True

namespace Store

/-- A store on disk is on disk after a call that does not fail at the disk. -/
theorem OnDisk.perform {β : Type} {form : Form} {s : Store} {root : String} {q : Place} {d : Disk}
    (h : OnDisk form s root q d) {c : StoreCall β} (fits : c.Fits form)
    (undisturbed : Undisturbed (perform c s).1) :
    ∃ d', OnDisk form (perform c s).2 root q d' := by
  cases c with
  | insertProduct p =>
    exact h.wrote_products (wrote_of_insert h.backing h.products fits.1 fits.2 undisturbed)
  | updateProduct p =>
    exact h.wrote_products (wrote_of_update h.backing h.products fits undisturbed)
  | deleteProduct id => exact h.wrote_products (wrote_of_delete h.backing h.products undisturbed)
  | insertLead l =>
    exact h.wrote_leads (wrote_of_insert h.backing h.leads fits.1 fits.2 undisturbed)
  | updateLead l => exact h.wrote_leads (wrote_of_update h.backing h.leads fits undisturbed)
  | deleteLead id => exact h.wrote_leads (wrote_of_delete h.backing h.leads undisturbed)
  | getProduct | listProducts | countProducts | getLead | listLeads | countLeads => exact ⟨d, h⟩

end Store

end Intake
