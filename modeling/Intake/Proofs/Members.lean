import Intake.Json

/-! # Members by key

A look-up finds the first member under a key. Values may change under their keys.
-/

namespace Intake

variable {α β : Type} {key : String}

theorem lookup_eq_none_iff_forall {members : List (String × α)} :
    members.lookup key = none ↔ ∀ v, (key, v) ∉ members := by
  rw [List.lookup_eq_none_iff]
  constructor
  · intro h v hv
    simpa using h (key, v) hv
  · rintro h ⟨k, v⟩ hv
    simp only [bne_iff_ne, ne_eq]
    rintro rfl
    exact h v hv

theorem lookup_eq_some_of_mem {members : List (String × α)}
    (distinct : (members.map Prod.fst).Nodup) {m : String × α} (h : m ∈ members) :
    members.lookup m.1 = some m.2 := by
  obtain ⟨front, back, rfl⟩ := List.append_of_mem h
  refine List.lookup_eq_some_iff.mpr ⟨front, back, rfl, fun other hOther => ?_⟩
  rw [List.map_append] at distinct
  have hApart := (List.nodup_append.mp distinct).2.2 other.1 (List.mem_map_of_mem hOther) m.1
  simpa using (hApart (by simp)).symm

theorem mem_of_lookup_eq_some {members : List (String × α)} {v : α}
    (found : members.lookup key = some v) : (key, v) ∈ members := by
  obtain ⟨front, back, rfl, -⟩ := List.lookup_eq_some_iff.mp found
  simp

theorem exists_lookup_iff {members : List (String × α)} :
    key ∈ members.map Prod.fst ↔ ∃ v, members.lookup key = some v := by
  rw [← Option.ne_none_iff_exists', ne_eq, lookup_eq_none_iff_forall]
  simp

/-- A change of the values leaves the keys where they are. -/
theorem lookup_map_values (f : α → β) (members : List (String × α)) :
    (members.map fun m => (m.1, f m.2)).lookup key = (members.lookup key).map f := by
  induction members with
  | nil => rfl
  | cons m rest ih =>
    obtain ⟨k, v⟩ := m
    by_cases hKey : key = k
    · rw [hKey, List.map_cons, List.lookup_cons_self, List.lookup_cons_self]
      rfl
    · rw [List.map_cons, lookup_cons_of_ne hKey, lookup_cons_of_ne hKey, ih]

theorem map_eq_self_iff {f : α → α} {items : List α} :
    items.map f = items ↔ ∀ a ∈ items, f a = a := by
  have hIdentity : items.map f = items.map id ↔ ∀ a ∈ items, f a = id a := List.map_inj_left
  rwa [List.map_id] at hIdentity

theorem keys_put (members : List (String × α)) (key : String) (value : α) :
    (put members key value).map Prod.fst =
      if key ∈ members.map Prod.fst then members.map Prod.fst
      else members.map Prod.fst ++ [key] := by
  induction members with
  | nil => rfl
  | cons m rest ih =>
    obtain ⟨k, v⟩ := m
    rw [put]
    by_cases hKey : k = key
    · simp [hKey]
    · rw [if_neg hKey, List.map_cons, ih]
      by_cases hRest : key ∈ rest.map Prod.fst
      · simp [hRest]
      · simp [hRest, Ne.symm hKey]

theorem nodup_keys_put {members : List (String × α)}
    (distinct : (members.map Prod.fst).Nodup) (key : String) (value : α) :
    ((put members key value).map Prod.fst).Nodup := by
  rw [keys_put]
  split
  · exact distinct
  · next hFresh =>
    refine List.nodup_append.mpr ⟨distinct, List.pairwise_singleton _ key, ?_⟩
    rintro k hk other hOther rfl
    exact hFresh (List.mem_singleton.mp hOther ▸ hk)

end Intake
