import Intake.Disk
import Mathlib.Data.List.Nodup

/-! # Places on a disk

Where a written path leads depends on the folders alone, and a file that comes or goes changes
nothing but what is at its own place.
-/

namespace Intake.Disk

variable {d d' : Disk} {p q : Place} {entry : Entry} {name path content : String}

section Entries

theorem find?_of_ne_nil (h : p ≠ []) :
    d.find? p = (d.entries.find? fun e => e.1 = p).map Prod.snd := if_neg h

theorem find?_eq_none_iff (h : p ≠ []) : d.find? p = none ↔ ∀ e ∈ d.entries, e.1 ≠ p := by
  rw [find?_of_ne_nil h, Option.map_eq_none_iff, List.find?_eq_none]
  simp only [decide_eq_true_eq]

/-- An entry that is put at a place is all that changes. -/
theorem find?_set (d : Disk) (h : p ≠ []) (entry : Entry) (q : Place) :
    (d.set p entry).find? q = if q = p then some entry else d.find? q := by
  by_cases hRoot : q = []
  · rw [hRoot, if_neg (Ne.symm h)]
    rfl
  · rw [find?_of_ne_nil hRoot, find?_of_ne_nil hRoot, set]
    split
    · next hAny =>
      let replaced (e : Place × Entry) : Place × Entry := if e.1 = p then (p, entry) else e
      have hPlace (e : Place × Entry) : (replaced e).1 = e.1 := by
        unfold replaced
        split
        · next hEq => exact hEq.symm
        · rfl
      change ((d.entries.map replaced).find? fun e => e.1 = q).map Prod.snd = _
      rw [List.find?_map]
      simp only [Function.comp_def, hPlace]
      cases hFind : d.entries.find? fun e => e.1 = q with
      | none =>
        rw [if_neg]
        · rfl
        · rintro rfl
          rw [List.any_eq_true] at hAny
          obtain ⟨e, hMem, hEq⟩ := hAny
          exact List.find?_eq_none.mp hFind e hMem hEq
      | some e =>
        have hEq : e.1 = q := by simpa using List.find?_some hFind
        by_cases hSame : q = p
        · simp [replaced, hEq, hSame]
        · simp [replaced, hEq, hSame]
    · next hAny =>
      rw [List.find?_append]
      by_cases hSame : q = p
      · subst hSame
        have hNone : d.entries.find? (fun e => e.1 = q) = none := by
          rw [List.find?_eq_none]
          intro e hMem hEq
          exact hAny (List.any_eq_true.mpr ⟨e, hMem, hEq⟩)
        simp [hNone]
      · simp [hSame, Ne.symm hSame]

theorem find?_erase (d : Disk) (h : p ≠ []) (q : Place) :
    (d.erase p).find? q = if q = p then none else d.find? q := by
  by_cases hRoot : q = []
  · rw [hRoot, if_neg (Ne.symm h)]
    rfl
  · rw [find?_of_ne_nil hRoot, find?_of_ne_nil hRoot, erase, List.find?_filter]
    by_cases hSame : q = p
    · rw [if_pos hSame, Option.map_eq_none_iff, List.find?_eq_none]
      intro e _
      simp [hSame]
    · rw [if_neg hSame]
      congr 2
      funext e
      by_cases hEq : e.1 = q
      · simp [hEq, hSame]
      · simp [hEq]

@[simp] theorem here_set (d : Disk) (p : Place) (entry : Entry) :
    (d.set p entry).here = d.here := by
  unfold set
  split <;> rfl

/-- The names of the entries right inside a folder. -/
def namesIn (d : Disk) (p : Place) : List String :=
  d.entries.filterMap fun e => if e.1.dropLast = p then e.1.getLast? else none

theorem name_eq_some_iff {place : Place} :
    (if place.dropLast = p then place.getLast? else none) = some name ↔ place = p ++ [name] := by
  constructor
  · intro h
    split at h
    · next hEq =>
      rw [← hEq]
      exact (List.dropLast_append_getLast? name h).symm
    · cases h
  · rintro rfl
    simp

theorem mem_namesIn_iff : name ∈ d.namesIn p ↔ ∃ e ∈ d.entries, e.1 = p ++ [name] := by
  unfold namesIn
  rw [List.mem_filterMap]
  simp only [name_eq_some_iff]

theorem mem_namesIn_iff_find? : name ∈ d.namesIn p ↔ d.find? (p ++ [name]) ≠ none := by
  rw [mem_namesIn_iff, ne_eq, find?_eq_none_iff (by simp)]
  simp

theorem namesIn_set (d : Disk) (p : Place) (name : String) (entry : Entry) :
    (d.set (p ++ [name]) entry).namesIn p =
      if name ∈ d.namesIn p then d.namesIn p else d.namesIn p ++ [name] := by
  by_cases hAny : (d.entries.any fun e => e.1 = p ++ [name]) = true
  · have hMem : name ∈ d.namesIn p := by
      rw [mem_namesIn_iff]
      simpa using hAny
    rw [if_pos hMem, set, if_pos hAny, namesIn, namesIn, List.filterMap_map]
    congr 1
    funext e
    by_cases hEq : e.1 = p ++ [name]
    · simp [hEq]
    · simp [hEq]
  · have hMem : name ∉ d.namesIn p := by
      rw [mem_namesIn_iff]
      simpa using hAny
    rw [if_neg hMem, set, if_neg hAny, namesIn, namesIn, List.filterMap_append]
    simp

theorem namesIn_set_of_ne (d : Disk) (h : q.dropLast ≠ p) (entry : Entry) :
    (d.set q entry).namesIn p = d.namesIn p := by
  unfold set namesIn
  split
  · rw [List.filterMap_map]
    congr 1
    funext e
    by_cases hEq : e.1 = q
    · simp [hEq, h]
    · simp [hEq]
  · simp [h]

theorem namesIn_erase (d : Disk) (p : Place) (name : String) :
    (d.erase (p ++ [name])).namesIn p = (d.namesIn p).filter (· ≠ name) := by
  unfold erase namesIn
  rw [List.filterMap_filter, List.filter_filterMap]
  congr 1
  funext e
  by_cases hEq : e.1 = p ++ [name]
  · simp [hEq, Option.filter]
  · rw [if_pos (by simpa using hEq)]
    by_cases hInside : e.1.dropLast = p
    · rw [if_pos hInside]
      cases hLast : e.1.getLast? with
      | none => rfl
      | some other =>
        have hOther : other ≠ name := by
          rintro rfl
          exact hEq (name_eq_some_iff.mp (by rw [if_pos hInside, hLast]))
        simp [Option.filter, hOther]
    · rw [if_neg hInside]
      rfl

theorem namesIn_erase_of_ne (d : Disk) (h : q.dropLast ≠ p) :
    (d.erase q).namesIn p = d.namesIn p := by
  unfold erase namesIn
  rw [List.filterMap_filter]
  congr 1
  funext e
  by_cases hEq : e.1 = q
  · simp [hEq, h]
  · simp [hEq]

end Entries

section Steps

theorem write_eq_ok_iff :
    d.write path content = .ok d' ↔ ∃ q, d.locate path = .ok q ∧ d.find? q ≠ some .folder ∧
      d' = d.set q (.file (.text content)) := by
  unfold Disk.write
  cases d.locate path with
  | error e => simp
  | ok q =>
    simp only [Except.ok.injEq, exists_eq_left']
    split
    · next hFolder => simp [hFolder]
    · next hOther =>
      rw [Except.ok.injEq]
      exact ⟨fun h => ⟨hOther, h.symm⟩, fun h => h.2.symm⟩

theorem rename_eq_ok {source target : String} (h : d.rename source target = .ok d') :
    ∃ q t content, d.locate source = .ok q ∧ d.locate target = .ok t ∧
      d.find? q = some (.file content) ∧ d.find? t ≠ some .folder ∧
      d' = (d.erase q).set t (.file content) := by
  unfold Disk.rename at h
  split at h
  · cases h
  · cases h
  · next q t hSource hTarget =>
    split at h
    · cases h
    · cases h
    · cases h
    · next content hFile hOther =>
      cases h
      exact ⟨q, t, content, hSource, hTarget, hFile, hOther, rfl⟩

theorem remove_eq_ok_iff {path : String} :
    d.remove path = .ok d' ↔
      ∃ q content, d.locate path = .ok q ∧ d.find? q = some (.file content) ∧ d' = d.erase q := by
  unfold Disk.remove
  cases d.locate path with
  | error e => simp
  | ok q =>
    simp only [Except.ok.injEq]
    cases hFind : d.find? q with
    | none => simp [hFind]
    | some entry =>
      cases entry with
      | folder => simp [hFind]
      | file content => simp [hFind, eq_comm]

theorem read_eq_ok_iff :
    d.read path = .ok content ↔
      ∃ q, d.locate path = .ok q ∧ d.find? q = some (.file (.text content)) := by
  unfold Disk.read
  cases d.locate path with
  | error e => simp
  | ok q =>
    simp only [Except.ok.injEq, exists_eq_left']
    split
    · next hNone => simp [hNone]
    · next hFolder => simp [hFolder]
    · next hText => simp [hText]
    · next hBinary => simp [hBinary]

theorem perform_write_iff :
    perform (.write path content) d = (.ok (), d') ↔ d.write path content = .ok d' := by
  unfold perform
  dsimp only
  cases d.write path content <;> simp

theorem perform_rename_iff {source target : String} :
    perform (.rename source target) d = (.ok (), d') ↔ d.rename source target = .ok d' := by
  unfold perform
  dsimp only
  cases d.rename source target <;> simp

theorem perform_remove_iff :
    perform (.remove path) d = (.ok (), d') ↔ d.remove path = .ok d' := by
  unfold perform
  dsimp only
  cases d.remove path <;> simp

end Steps

end Intake.Disk
