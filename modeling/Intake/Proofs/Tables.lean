import Mathlib.Data.List.Nodup
import Intake.Store

/-! # Tables and stores

What is found in a table, and in a store without a backing, after a record has been added.
-/

namespace Intake

namespace Table

variable {α : Type} [Record α] {t u : Table α} {r : α}

theorem insert?_eq_some_iff :
    t.insert? r = some u ↔ t.contains (Record.id r) = false ∧ u.rows = t.rows ++ [r] := by
  unfold insert?
  split
  · next hUntaken =>
    simp only [Option.some.injEq, hUntaken, true_and]
    constructor
    · rintro rfl
      rfl
    · obtain ⟨rows, distinct⟩ := u
      rintro rfl
      rfl
  · next hTaken => simp [hTaken]

theorem id_of_find? {id : String} (h : t.find? id = some r) : Record.id r = id := by
  simpa using List.find?_some h

theorem mem_of_find? {id : String} (h : t.find? id = some r) : r ∈ t.rows :=
  List.mem_of_find?_eq_some h

theorem find?_eq_some_iff {id : String} :
    t.find? id = some r ↔ r ∈ t.rows ∧ Record.id r = id := by
  constructor
  · intro h
    exact ⟨mem_of_find? h, id_of_find? h⟩
  · rintro ⟨hMem, rfl⟩
    cases hFind : t.find? (Record.id r) with
    | none =>
      have hOther : ¬decide (Record.id r = Record.id r) = true :=
        List.find?_eq_none.mp hFind r hMem
      simp at hOther
    | some s =>
      have hEq : s = r :=
        List.inj_on_of_nodup_map t.distinct (mem_of_find? hFind) hMem (id_of_find? hFind)
      rw [hEq]

theorem contains_eq_true_iff {id : String} : t.contains id = true ↔ ∃ r, t.find? id = some r := by
  simp only [contains, decide_eq_true_eq, List.mem_map, find?_eq_some_iff]

theorem find?_eq_none_iff {id : String} : t.find? id = none ↔ t.contains id = false := by
  simp [find?, contains]

theorem find?_of_insert? (h : t.insert? r = some u) : u.find? (Record.id r) = some r := by
  obtain ⟨hUntaken, hRows⟩ := insert?_eq_some_iff.mp h
  have hNone : t.rows.find? (fun s => Record.id s = Record.id r) = none :=
    find?_eq_none_iff.mpr hUntaken
  unfold find?
  rw [hRows, List.find?_append, hNone]
  simp

theorem find?_of_insert?_of_ne (h : t.insert? r = some u) {id : String} (hId : id ≠ Record.id r) :
    u.find? id = t.find? id := by
  obtain ⟨-, hRows⟩ := insert?_eq_some_iff.mp h
  unfold find?
  rw [hRows, List.find?_append]
  simp [hId.symm]

theorem find?_replace (t : Table α) (r : α) (id : String) :
    (t.replace r).find? id = (t.find? id).map (put r) := by
  unfold find? replace
  simp only [List.find?_map, Function.comp_def, id_put]

theorem find?_replace_self (h : t.contains (Record.id r) = true) :
    (t.replace r).find? (Record.id r) = some r := by
  obtain ⟨s, hFind⟩ := contains_eq_true_iff.mp h
  rw [find?_replace, hFind]
  simp [put, id_of_find? hFind]

theorem find?_replace_of_ne {id : String} (hId : id ≠ Record.id r) :
    (t.replace r).find? id = t.find? id := by
  rw [find?_replace]
  cases hFind : t.find? id with
  | none => rfl
  | some s =>
    have hNe : Record.id s ≠ Record.id r := id_of_find? hFind ▸ hId
    simp [put, hNe]

theorem find?_remove_self (t : Table α) (id : String) : (t.remove id).find? id = none := by
  unfold find? remove
  rw [List.find?_eq_none]
  intro s hMem
  simpa using (List.mem_filter.mp hMem).2

theorem find?_remove_of_ne {id other : String} (h : other ≠ id) :
    (t.remove id).find? other = t.find? other := by
  unfold find? remove
  rw [List.find?_filter]
  congr 1
  funext s
  by_cases hId : Record.id s = other
  · simp [hId, h]
  · simp [hId]

end Table

namespace Store

variable {α : Type} [Stored α] {s : Store} {r : α}

/-- A store without a backing takes every record whose id is not taken, and then gives it back. -/
theorem insert_of_memory (memory : s.backing? = none)
    (untaken : (Stored.table s.tables : Table α).contains (Record.id r) = false) :
    ∃ s' : Store, s.insert r = (.ok (), s') ∧ s'.get (Record.id r) = .ok r := by
  obtain ⟨t, hInsert⟩ : ∃ t, (Stored.table s.tables).insert? r = some t :=
    ⟨_, dif_pos untaken⟩
  refine ⟨s.withTable t, ?_, ?_⟩
  · simp only [insert, hInsert, save, memory]
  · simp only [get, withTable, Stored.table_withTable, Table.find?_of_insert? hInsert]

/-- A record is saved and its table taken over, or nothing in the tables changes. -/
theorem save_cases (s : Store) (r : α) (t : Table α) :
    ((s.save r t).1 = .ok () ∧ (s.save r t).2.tables = Stored.withTable s.tables t) ∨
      ∃ e, (s.save r t).1 = .error e ∧ (s.save r t).2.tables = s.tables := by
  unfold save
  cases s.backing? with
  | none => exact .inl ⟨rfl, rfl⟩
  | some b =>
    dsimp only
    generalize Files.save b r = saved
    obtain ⟨result, b'⟩ := saved
    cases result with
    | ok => exact .inl ⟨rfl, rfl⟩
    | error e => exact .inr ⟨e, rfl, rfl⟩

theorem insert_cases (s : Store) (r : α) :
    (∃ t, (Stored.table s.tables).insert? r = some t ∧ (s.insert r).1 = .ok () ∧
      (s.insert r).2.tables = Stored.withTable s.tables t) ∨
      ∃ e, (s.insert r).1 = .error e ∧ (s.insert r).2.tables = s.tables := by
  unfold insert
  cases hInsert : (Stored.table s.tables).insert? r with
  | none => exact .inr ⟨_, rfl, rfl⟩
  | some t => exact (save_cases s r t).imp_left fun h => ⟨t, rfl, h⟩

theorem update_cases (s : Store) (r : α) :
    ((Stored.table s.tables : Table α).contains (Record.id r) = true ∧ (s.update r).1 = .ok () ∧
      (s.update r).2.tables =
        Stored.withTable s.tables ((Stored.table s.tables : Table α).replace r)) ∨
      ∃ e, (s.update r).1 = .error e ∧ (s.update r).2.tables = s.tables := by
  unfold update
  dsimp only
  split
  · next hKnown => exact (save_cases s r _).imp_left fun h => ⟨hKnown, h⟩
  · exact .inr ⟨_, rfl, rfl⟩

variable (α) in
theorem delete_cases (s : Store) (id : String) :
    ((Stored.table s.tables : Table α).contains id = true ∧ (s.delete α id).1 = .ok () ∧
      (s.delete α id).2.tables =
        Stored.withTable s.tables ((Stored.table s.tables : Table α).remove id)) ∨
      ∃ e, (s.delete α id).1 = .error e ∧ (s.delete α id).2.tables = s.tables := by
  unfold delete
  dsimp only
  split
  · next hKnown =>
    cases s.backing? with
    | none => exact .inl ⟨hKnown, rfl, rfl⟩
    | some b =>
      dsimp only
      generalize Files.delete (Record.kind α) b id = deleted
      obtain ⟨result, b'⟩ := deleted
      cases result with
      | ok => exact .inl ⟨hKnown, rfl, rfl⟩
      | error e => exact .inr ⟨e, rfl, rfl⟩
  · exact .inr ⟨_, rfl, rfl⟩

theorem get_eq_ok_iff {s : Store} {id : String} :
    s.get id = .ok r ↔ (Stored.table s.tables : Table α).find? id = some r := by
  unfold get
  cases (Stored.table s.tables : Table α).find? id <;> simp

theorem get_of_error {s : Store} {id : String} {e : StorageError}
    (h : (s.get id : Except StorageError α) = .error e) : e = missing α id := by
  rw [get] at h
  split at h
  · cases h
  · cases h
    rfl

end Store

end Intake
