import Intake.Store.Files
import Intake.Table

/-! # The store

A store keeps products and leads in tables. With a backing every change is written through to disk
before the tables change, so that the tables never hold a record that is not on disk.
-/

namespace Intake

structure Tables where
  products : Table Product := .empty
  leads : Table Lead := .empty

instance : Inhabited Tables := ⟨{}⟩

/-- Records that have a table in every store. -/
class Stored (α : Type) extends Record α where
  table : Tables → Table α
  withTable : Tables → Table α → Tables
  table_withTable : ∀ s t, table (withTable s t) = t

instance : Stored Product where
  table := Tables.products
  withTable s t := { s with products := t }
  table_withTable _ _ := rfl

instance : Stored Lead where
  table := Tables.leads
  withTable s t := { s with leads := t }
  table_withTable _ _ := rfl

structure Store where
  tables : Tables := {}
  backing? : Option Backing := none

/-- A call to a store, which nothing else interrupts, and what it gives back. -/
inductive StoreCall : Type → Type where
  | insertProduct (p : Product) : StoreCall Unit
  | getProduct (id : String) : StoreCall Product
  | updateProduct (p : Product) : StoreCall Unit
  | deleteProduct (id : String) : StoreCall Unit
  | listProducts (page : Page) : StoreCall (List Product)
  | countProducts : StoreCall Nat
  | insertLead (l : Lead) : StoreCall Unit
  | getLead (id : String) : StoreCall Lead
  | updateLead (l : Lead) : StoreCall Unit
  | deleteLead (id : String) : StoreCall Unit
  | listLeads (productId? : Option String) (page : Page) : StoreCall (List Lead)
  | countLeads (productId? : Option String) : StoreCall Nat

/-- The leads of one product, or all of them. -/
def Lead.isFor (productId? : Option String) (l : Lead) : Bool :=
  match productId? with
  | none => true
  | some id => l.productId = id

namespace Store

variable {α : Type} [Stored α]

def missing (α : Type) [Stored α] (id : String) : StorageError :=
  .notFound (Record.kind α) id

def withTable (s : Store) (t : Table α) : Store := { s with tables := Stored.withTable s.tables t }

/-- Saves a record if there is a backing, and then takes over the table that holds it. -/
def save (s : Store) (r : α) (t : Table α) : Except StorageError Unit × Store :=
  match s.backing? with
  | none => (.ok (), s.withTable t)
  | some b =>
    match Files.save b r with
    | (.ok (), b) => (.ok (), { s with backing? := some b }.withTable t)
    | (.error e, b) => (.error e, { s with backing? := some b })

def insert (s : Store) (r : α) : Except StorageError Unit × Store :=
  match (Stored.table s.tables).insert? r with
  | none => (.error (.duplicate (Record.id r)), s)
  | some t => s.save r t

def get (s : Store) (id : String) : Except StorageError α :=
  match (Stored.table s.tables).find? id with
  | some r => .ok r
  | none => .error (missing α id)

/-- A record keeps its place when it is updated. -/
def update (s : Store) (r : α) : Except StorageError Unit × Store :=
  let table : Table α := Stored.table s.tables
  if table.contains (Record.id r) then s.save r (table.replace r)
  else (.error (missing α (Record.id r)), s)

variable (α) in
def delete (s : Store) (id : String) : Except StorageError Unit × Store :=
  let table : Table α := Stored.table s.tables
  if table.contains id then
    match s.backing? with
    | none => (.ok (), s.withTable (table.remove id))
    | some b =>
      match Files.delete (Record.kind α) b id with
      | (.ok (), b) => (.ok (), { s with backing? := some b }.withTable (table.remove id))
      | (.error e, b) => (.error e, { s with backing? := some b })
  else (.error (missing α id), s)

def page (s : Store) (keep : α → Bool) (page : Page) : List α :=
  (Stored.table s.tables).page keep page

def count (s : Store) (keep : α → Bool) : Nat := (Stored.table s.tables).count keep

/-- Carries a call out. -/
def perform : {β : Type} → StoreCall β → Store → Except StorageError β × Store
  | _, .insertProduct p, s => s.insert p
  | _, .getProduct id, s => (s.get id, s)
  | _, .updateProduct p, s => s.update p
  | _, .deleteProduct id, s => s.delete Product id
  | _, .listProducts page, s => (.ok (s.page (fun _ : Product => true) page), s)
  | _, .countProducts, s => (.ok (s.count fun _ : Product => true), s)
  | _, .insertLead l, s => s.insert l
  | _, .getLead id, s => (s.get id, s)
  | _, .updateLead l, s => s.update l
  | _, .deleteLead id, s => s.delete Lead id
  | _, .listLeads productId? page, s => (.ok (s.page (Lead.isFor productId?) page), s)
  | _, .countLeads productId?, s => (.ok (s.count (Lead.isFor productId?)), s)

/-- Opens a folder and loads its records. It may make folders, but no file is touched. -/
def openAt (root : String) (d : Disk) : Except StorageError Store × Disk :=
  match Files.load Product d root with
  | (.error e, d) => (.error e, d)
  | (.ok products, d) =>
    match Files.load Lead d root with
    | (.error e, d) => (.error e, d)
    | (.ok leads, d) =>
      match Table.empty.ofRows products, Table.empty.ofRows leads with
      | .error id, _ => (.error (.duplicate id), d)
      | .ok _, .error id => (.error (.duplicate id), d)
      | .ok products, .ok leads => (.ok ⟨⟨products, leads⟩, some { root := root, disk := d }⟩, d)

end Store

end Intake
