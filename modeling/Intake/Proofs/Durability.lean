import Intake.Proofs.Opening
import Intake.Proofs.RecordText

/-! # What is acknowledged stays

Where every record file is named for the id in it, the changes that a store has acknowledged are
there when its folder is opened again. Where one is not, a record that is deleted comes back.
-/

namespace Intake

open Disk Files

/-- A call that writes only what can be read back, to a file of its folder. -/
def StoreCall.Admissible : {β : Type} → StoreCall β → Prop
  | _, insertProduct p => IsPlain p.id ∧ p.Storable
  | _, updateProduct p => p.Storable
  | _, insertLead l => IsPlain l.id ∧ l.Storable
  | _, updateLead l => l.Storable
  | _, _ => True

theorem StoreCall.Admissible.fits {β : Type} {c : StoreCall β} (h : c.Admissible) :
    c.Fits .readable := by
  cases c with
  | insertProduct p => exact ⟨h.1, h.2.read_fileText⟩
  | updateProduct p => exact Product.Storable.read_fileText h
  | insertLead l => exact ⟨h.1, h.2.read_fileText⟩
  | updateLead l => exact Lead.Storable.read_fileText h
  | deleteProduct | deleteLead | getProduct | listProducts | countProducts | getLead | listLeads
  | countLeads => exact trivial

namespace Store

/-- Calls that all succeed, one after the other. -/
inductive Acknowledged : Store → List (StoreCall Unit) → Store → Prop where
  | nil {s : Store} : Acknowledged s [] s
  | cons {s s' : Store} {c : StoreCall Unit} {calls : List (StoreCall Unit)}
    (succeeds : (perform c s).1 = .ok ()) (later : Acknowledged (perform c s).2 calls s') :
    Acknowledged s (c :: calls) s'

theorem OnDisk.acknowledged {s s' : Store} {root : String} {q : Place} {d : Disk}
    {calls : List (StoreCall Unit)} (h : OnDisk .readable s root q d)
    (done : Acknowledged s calls s') (admissible : ∀ c ∈ calls, c.Admissible) :
    ∃ d', OnDisk .readable s' root q d' := by
  induction done generalizing d with
  | nil => exact ⟨d, h⟩
  | cons succeeds _ ih =>
    -- A call that succeeds has not failed at the disk.
    have hUndisturbed : Undisturbed (Except.ok () : Except StorageError Unit) := nofun
    obtain ⟨d₁, hNext⟩ := h.perform (admissible _ List.mem_cons_self).fits
      (succeeds ▸ hUndisturbed)
    exact ih hNext fun c hc => admissible c (List.mem_cons_of_mem _ hc)

/-- A store is opened where every record file is named for the id in it, and calls to it succeed.
Then its folder can be opened again, which changes nothing on disk and gives the records that the
store holds: none is lost, none comes back and none comes twice. -/
theorem openAt_of_acknowledged {root : String} {d d₀ : Disk} {s s' : Store}
    {calls : List (StoreCall Unit)} (opened : openAt root d = (.ok s, d₀))
    (products : NamedForIds Product d₀ root) (leads : NamedForIds Lead d₀ root)
    (admissible : ∀ c ∈ calls, c.Admissible) (done : Acknowledged s calls s') :
    ∃ d', s'.backing? = some { root := root, disk := d' } ∧
      ∃ again, openAt root d' = (.ok again, d') ∧
        SameInOrder Product s' again ∧ SameInOrder Lead s' again := by
  obtain ⟨q, hOpened⟩ := onDisk_of_openAt opened products leads
  obtain ⟨d', hDone⟩ := hOpened.acknowledged done admissible
  exact ⟨d', hDone.backing, hDone.openAt⟩

section Instances

/-- A folder with one file among the products. -/
def oneProductFile (name : String) (p : Product) : Disk where
  entries := [(["data"], .folder), (["data", "products"], .folder),
    (["data", "products", name], .file (.text (Record.fileText p))), (["data", "leads"], .folder)]

/-- The store that is opened on one product. -/
def withProduct (p : Product) (d : Disk) : Store :=
  ⟨⟨⟨[p], List.nodup_singleton _⟩, .empty⟩, some { root := "data", disk := d }⟩

theorem storable_fieldless (id name : String) :
    (⟨id, name, "", .object [], ⟨0, 0⟩, ⟨0, 0⟩⟩ : Product).Storable where
  schema := ⟨.obj [], ⟨.obj nofun, .obj nofun List.nodup_nil⟩, by rfl⟩
  createdAt := Instant.isLegal_of_inRange (by decide)
  updatedAt := Instant.isLegal_of_inRange (by decide)
  lasting := by
    refine ⟨fun t hDate => ?_, Value.doublesLast_object nofun⟩
    obtain ⟨m, hMem, -⟩ := Value.hasDate_object_iff.mp hDate
    cases hMem

/-- A folder with one record file among the products and none among the leads is opened. -/
theorem openAt_of_single {d : Disk} {name : String} {p : Product} (storable : p.Storable)
    (products : d.makeFoldersAt "data/products" = (.ok (), d))
    (leads : d.makeFoldersAt "data/leads" = (.ok (), d))
    (product : d.list "data/products" = .ok [name]) (lead : d.list "data/leads" = .ok [])
    (record : isRecordName name = true)
    (content : d.read (join "data/products" name) = .ok (Record.fileText p)) :
    openAt "data" d = (.ok (withProduct p d), d) := by
  have hRead : readRecord d (join "data/products" name) = .ok p :=
    readRecord_eq_ok_iff.mpr ⟨_, content, storable.read_fileText⟩
  have hProducts : load Product d "data" = (.ok (sorted [p]), d) := by
    refine load_of_readRecords products product ?_
    rw [readRecords, if_pos record, show folderPath _ "data" = "data/products" from rfl, hRead]
    rfl
  have hLeads : load Lead d "data" = (.ok (sorted []), d) := load_of_readRecords leads lead rfl
  rw [sorted, List.mergeSort_singleton] at hProducts
  rw [sorted, List.mergeSort_nil] at hLeads
  exact openAt_of_load hProducts hLeads rfl rfl

/-- A product is renamed, another one is added, and the first one is deleted. -/
theorem openAt_of_acknowledged_three_writes :
    let p : Product := ⟨"p1", "Loans", "", .object [], ⟨0, 0⟩, ⟨0, 0⟩⟩
    let q : Product := ⟨"p2", "Cards", "", .object [], ⟨0, 0⟩, ⟨0, 0⟩⟩
    let calls : List (StoreCall Unit) :=
      [.updateProduct { p with name := "Credit" }, .insertProduct q, .deleteProduct "p1"]
    let d := oneProductFile "p1.json" p
    ∃ s s', openAt "data" d = (.ok s, d) ∧ NamedForIds Product d "data" ∧
      NamedForIds Lead d "data" ∧ (∀ c ∈ calls, c.Admissible) ∧ Acknowledged s calls s' ∧
      ∃ d', s'.backing? = some { root := "data", disk := d' } ∧
        ∃ again, openAt "data" d' = (.ok again, d') ∧
          SameInOrder Product s' again ∧ SameInOrder Lead s' again := by
  intro p q calls d
  let s := withProduct p d
  have hProductNames : d.list "data/products" = .ok ["p1.json"] := by decide +kernel
  have hLeadNames : d.list "data/leads" = .ok [] := by decide +kernel
  have hContent : d.read "data/products/p1.json" = .ok (Record.fileText p) := by decide +kernel
  have hOpened : openAt "data" d = (.ok s, d) :=
    openAt_of_single (storable_fieldless _ _) (by decide +kernel) (by decide +kernel)
      hProductNames hLeadNames (by decide) hContent
  have hProducts : NamedForIds Product d "data" := by
    intro names hList name hMem _ r hRead
    obtain rfl : ["p1.json"] = names := Except.ok.inj (hProductNames.symm.trans hList)
    obtain rfl := List.mem_singleton.mp hMem
    obtain ⟨content, hFound, hRecord⟩ := readRecord_eq_ok_iff.mp hRead
    obtain rfl : Record.fileText p = content := Except.ok.inj (hContent.symm.trans hFound)
    rw [(storable_fieldless _ _).read_fileText] at hRecord
    cases hRecord
    exact ⟨⟨by decide, by decide⟩, rfl⟩
  have hLeads : NamedForIds Lead d "data" := by
    intro names hList name hMem
    obtain rfl : [] = names := Except.ok.inj (hLeadNames.symm.trans hList)
    cases hMem
  have hAdmissible : ∀ c ∈ calls, c.Admissible := by
    simp only [calls, List.forall_mem_cons]
    exact ⟨storable_fieldless _ _, ⟨⟨by decide, by decide⟩, storable_fieldless _ _⟩, trivial, nofun⟩
  have hDone : Acknowledged s calls (calls.foldl (fun s c => (perform c s).2) s) :=
    .cons (by decide +kernel) (.cons (by decide +kernel) (.cons (by decide +kernel) .nil))
  exact ⟨s, _, hOpened, hProducts, hLeads, hAdmissible, hDone,
    openAt_of_acknowledged hOpened hProducts hLeads hAdmissible hDone⟩

/-- A product in a file of another name is deleted, and is there again when the folder is opened
the next time. -/
theorem deleted_product_comes_back :
    let p : Product := ⟨"p1", "Loans", "", .object [], ⟨0, 0⟩, ⟨0, 0⟩⟩
    let d := oneProductFile "foo.json" p
    ∃ s s', openAt "data" d = (.ok s, d) ∧ Acknowledged s [.deleteProduct "p1"] s' ∧
      (s'.get "p1" : Except StorageError Product) = .error (.notFound .product "p1") ∧
      s'.backing? = some { root := "data", disk := d } ∧
      ∃ again, openAt "data" d = (.ok again, d) ∧ again.get "p1" = .ok p := by
  intro p d
  let s := withProduct p d
  have hNames : d.list "data/products" = .ok ["foo.json"] := by decide +kernel
  have hOpened : openAt "data" d = (.ok s, d) :=
    openAt_of_single (storable_fieldless _ _) (by decide +kernel) (by decide +kernel) hNames
      (by decide +kernel) (by decide) (by decide +kernel)
  have hRemove : Disk.perform (.remove (recordPath .product "data" "p1")) d =
      (.error .notFound, d) := by decide +kernel
  have hMissed : Files.delete .product { root := "data", disk := d } "p1" =
      (.ok (), { root := "data", disk := d }) := by
    unfold Files.delete
    dsimp only
    rw [hRemove]
  have hDelete : perform (.deleteProduct "p1") s =
      (.ok (), s.withTable (s.tables.products.remove "p1")) := by
    have hKnown : (Stored.table s.tables : Table Product).contains "p1" = true := by decide
    unfold perform Store.delete
    dsimp only
    rw [if_pos hKnown, show s.backing? = some { root := "data", disk := d } from rfl]
    dsimp only
    rw [show Record.kind Product = .product from rfl, hMissed]
    rfl
  have hDone : Acknowledged s [.deleteProduct "p1"] (perform (.deleteProduct "p1") s).2 :=
    .cons (congrArg Prod.fst hDelete) .nil
  rw [hDelete] at hDone
  exact ⟨_, _, hOpened, hDone, by rfl, by rfl, _, hOpened, by rfl⟩

end Instances

end Store

end Intake
