import Intake.Paging
import Intake.Record

/-! # Tables

A table holds records of one kind in the order in which they came, each under an id of its own.
-/

namespace Intake

structure Table (α : Type) [Record α] where
  rows : List α
  distinct : (rows.map Record.id).Nodup

namespace Table

variable {α : Type} [Record α]

def empty : Table α := ⟨[], List.nodup_nil⟩

instance : Inhabited (Table α) := ⟨empty⟩

def find? (t : Table α) (id : String) : Option α := t.rows.find? fun r => Record.id r = id

def contains (t : Table α) (id : String) : Bool := id ∈ t.rows.map Record.id

theorem nodup_append {t : Table α} {r : α} (h : t.contains (Record.id r) = false) :
    ((t.rows ++ [r]).map Record.id).Nodup := by
  have h' : Record.id r ∉ t.rows.map Record.id := by simpa [contains] using h
  simp only [List.map_append, List.map_cons, List.map_nil]
  exact List.nodup_append.2 ⟨t.distinct, by simp, fun a ha b hb => by
    rw [List.mem_singleton.1 hb]
    exact fun e => h' (e ▸ ha)⟩

/-- Adds a record at the end, unless its id is taken. -/
def insert? (t : Table α) (r : α) : Option (Table α) :=
  if h : t.contains (Record.id r) = false then some ⟨t.rows ++ [r], nodup_append h⟩ else none

/-- Puts a record in the place of the one with its id. -/
def put (r s : α) : α := if Record.id s = Record.id r then r else s

theorem id_put (r s : α) : Record.id (put r s) = Record.id s := by
  unfold put
  split
  · next h => exact h.symm
  · rfl

def replace (t : Table α) (r : α) : Table α where
  rows := t.rows.map (put r)
  distinct := by
    have : (t.rows.map (put r)).map Record.id = t.rows.map Record.id := by
      simp [Function.comp_def, id_put]
    exact this ▸ t.distinct

def remove (t : Table α) (id : String) : Table α where
  rows := t.rows.filter fun r => Record.id r ≠ id
  distinct := t.distinct.sublist (List.filter_sublist.map _)

def page (t : Table α) (keep : α → Bool) (page : Page) : List α := page.cut (t.rows.filter keep)

def count (t : Table α) (keep : α → Bool) : Nat := (t.rows.filter keep).length

/-- Adds records in order; an id that comes twice is given back. -/
def ofRows (t : Table α) : List α → Except String (Table α)
  | [] => .ok t
  | r :: rest =>
    match t.insert? r with
    | some t => t.ofRows rest
    | none => .error (Record.id r)

end Table

end Intake
