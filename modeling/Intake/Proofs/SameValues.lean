import Mathlib.Data.List.Perm.Subperm
import Intake.Proofs.UnseenFields

/-! # Values that are the same

What equality comes to one level deep: values that are equal without being one and the same are two
doubles, two arrays or two objects. Equal objects hold equal values under the same keys, provided
that no key comes twice.
-/

namespace Intake

/-- Where no key comes twice, the order of the members does not matter. -/
theorem lookup_of_perm {α : Type} {ms ms' : List (String × α)} (h : ms.Perm ms')
    (distinct : (ms.map Prod.fst).Nodup) (key : String) : ms.lookup key = ms'.lookup key := by
  induction h with
  | nil => rfl
  | cons m _ ih =>
    obtain ⟨k, v⟩ := m
    rw [List.lookup_cons, List.lookup_cons, ih (List.nodup_cons.mp distinct).2]
  | swap m m' rest =>
    obtain ⟨k, v⟩ := m
    obtain ⟨k', v'⟩ := m'
    have hKeys : k' ≠ k := by
      rintro rfl
      simp at distinct
    by_cases hKey : key = k
    · subst hKey
      rw [lookup_cons_of_ne hKeys.symm, List.lookup_cons_self, List.lookup_cons_self]
    · simp only [List.lookup_cons, beq_eq_false_iff_ne.mpr hKey]
  | trans hFirst _ ih ih' =>
    rw [ih distinct, ih' ((hFirst.map Prod.fst).nodup_iff.mp distinct)]

/-- Where no key comes twice, keys that are found again among just as many are all there are. -/
theorem keys_perm_of_found {α β : Type} {ms : List (String × α)} {ms' : List (String × β)}
    (found : ∀ key v, ms.lookup key = some v → ∃ w, ms'.lookup key = some w)
    (length : ms.length = ms'.length) (distinct : (ms.map Prod.fst).Nodup) :
    (ms.map Prod.fst).Perm (ms'.map Prod.fst) := by
  have hSubset : ms.map Prod.fst ⊆ ms'.map Prod.fst := by
    intro k hk
    obtain ⟨v, hv⟩ := exists_lookup_iff.mp hk
    exact exists_lookup_iff.mpr (found k v hv)
  apply (distinct.subperm hSubset).perm_of_length_le
  rw [List.length_map, List.length_map]
  exact Nat.le_of_eq length.symm

theorem lookup_eq_none_iff_of_keys_perm {α β : Type} {ms : List (String × α)}
    {ms' : List (String × β)} (h : (ms.map Prod.fst).Perm (ms'.map Prod.fst)) (key : String) :
    ms.lookup key = none ↔ ms'.lookup key = none := by
  apply not_iff_not.mp
  rw [← ne_eq, ← ne_eq, Option.ne_none_iff_exists', Option.ne_none_iff_exists',
    ← exists_lookup_iff, ← exists_lookup_iff]
  exact h.mem_iff

theorem Double.lt_of_same_left {x y : Double} (h : x.same y = true) (b : Double) :
    x.lt b = y.lt b := by
  simp only [same, Bool.and_eq_true, Bool.not_eq_true', decide_eq_true_eq] at h
  obtain ⟨⟨hx, hy⟩, hOrder⟩ := h
  rw [lt, lt, hx, hy, hOrder]

theorem Double.lt_of_same_right {x y : Double} (h : x.same y = true) (b : Double) :
    b.lt x = b.lt y := by
  simp only [same, Bool.and_eq_true, Bool.not_eq_true', decide_eq_true_eq] at h
  obtain ⟨⟨hx, hy⟩, hOrder⟩ := h
  rw [lt, lt, hx, hy, hOrder]

theorem Bounds.check_of_same {x y : Double} (h : x.same y = true) (bounds : Bounds) :
    bounds.check x = bounds.check y := by
  have hMin : bounds.checkMin x = bounds.checkMin y := by
    unfold checkMin
    simp only [Double.lt_of_same_left h]
  have hMax : bounds.checkMax x = bounds.checkMax y := by
    unfold checkMax
    simp only [Double.lt_of_same_right h]
  rw [check, check, hMin, hMax]

namespace Value

/-- Two values are one and the same, or they are equal and no object has a key twice. -/
def Equal (v w : Value) : Prop := v = w ∨ v.KeysDistinct ∧ v.same w = true

/-- Two values side by side, one level deep: they are the same, or else doubles that are equal as
numbers, or arrays of one length, or objects. -/
inductive Beside (items : Value → Value → Prop)
    (members : List (String × Value) → List (String × Value) → Prop) : Value → Value → Prop where
  | refl (v : Value) : Beside items members v v
  | floats {x y : Double} (h : x.same y = true) : Beside items members (.float x) (.float y)
  | arrays {vs ws : List Value} (length : vs.length = ws.length)
      (each : ∀ (i : Nat) v w, vs[i]? = some v → ws[i]? = some w → items v w) :
      Beside items members (.array vs) (.array ws)
  | objects {ms ms' : List (String × Value)} (h : members ms ms') :
      Beside items members (.object ms) (.object ms')

theorem Beside.imp {items items' : Value → Value → Prop}
    {members members' : List (String × Value) → List (String × Value) → Prop} {v w : Value}
    (h : Beside items members v w) (hItems : ∀ v w, items v w → items' v w)
    (hMembers : ∀ ms ms', members ms ms' → members' ms ms') : Beside items' members' v w := by
  cases h with
  | refl => exact .refl v
  | floats h => exact .floats h
  | arrays length each => exact .arrays length fun i a b ha hb => hItems a b (each i a b ha hb)
  | objects h => exact .objects (hMembers _ _ h)

theorem KeysDistinct.item {items : List Value} (h : (array items).KeysDistinct) {v : Value}
    (present : v ∈ items) : v.KeysDistinct :=
  fun inner hInside => h inner (.item present hInside)

theorem sameItems_iff {vs ws : List Value} : sameItems vs ws = true ↔ vs.length = ws.length ∧
    ∀ (i : Nat) v w, vs[i]? = some v → ws[i]? = some w → v.same w = true := by
  induction vs generalizing ws with
  | nil =>
    cases ws with
    | nil => simp [sameItems]
    | cons w ws => simp [sameItems]
  | cons v vs ih =>
    cases ws with
    | nil => simp [sameItems]
    | cons w ws =>
      rw [sameItems, Bool.and_eq_true, ih, List.length_cons, List.length_cons, Nat.succ_inj]
      constructor
      · rintro ⟨hHead, hLength, hRest⟩
        refine ⟨hLength, ?_⟩
        intro i a b ha hb
        cases i with
        | zero =>
          cases ha
          cases hb
          exact hHead
        | succ i => exact hRest i a b ha hb
      · rintro ⟨hLength, h⟩
        exact ⟨h 0 v w rfl rfl, hLength, fun i => h (i + 1)⟩

theorem sameMembers_iff {ms ms' : List (String × Value)} : sameMembers ms ms' = true ↔
    ∀ m ∈ ms, ∃ w, ms'.lookup m.1 = some w ∧ m.2.same w = true := by
  induction ms with
  | nil => simp [sameMembers]
  | cons m rest ih =>
    obtain ⟨key, v⟩ := m
    rw [sameMembers, Bool.and_eq_true, ih, List.forall_mem_cons]
    cases ms'.lookup key <;> simp

theorem lookup_of_sameMembers {ms ms' : List (String × Value)} (h : sameMembers ms ms' = true)
    {key : String} {v : Value} (found : ms.lookup key = some v) :
    ∃ w, ms'.lookup key = some w ∧ v.same w = true :=
  sameMembers_iff.mp h (key, v) (mem_of_lookup_eq_some found)

/-- Two lists of members hold equal values under the same keys. -/
structure EqualMembers (ms ms' : List (String × Value)) : Prop where
  keys (key : String) : ms.lookup key = none ↔ ms'.lookup key = none
  values {key : String} {v w : Value} (found : ms.lookup key = some v)
    (found' : ms'.lookup key = some w) : v.Equal w

theorem Equal.beside {v w : Value} (h : v.Equal w) : Beside Equal EqualMembers v w := by
  rcases h with rfl | ⟨distinct, h⟩
  · exact .refl v
  unfold same at h
  split at h
  case h_9 ms ms' =>
    rw [Bool.and_eq_true, beq_iff_eq] at h
    have hKeys : (ms.map Prod.fst).Nodup := (keysDistinct_object_iff.mp distinct).1
    have hFound (key : String) (v : Value) (hv : ms.lookup key = some v) :
        ∃ w, ms'.lookup key = some w :=
      (lookup_of_sameMembers h.2 hv).imp fun _ => And.left
    have hPerm : (ms.map Prod.fst).Perm (ms'.map Prod.fst) := keys_perm_of_found hFound h.1 hKeys
    refine .objects ⟨lookup_eq_none_iff_of_keys_perm hPerm, fun {key v w} hv hw => ?_⟩
    obtain ⟨u, hu, hSame⟩ := lookup_of_sameMembers h.2 hv
    obtain rfl : u = w := Option.some.inj (hu.symm.trans hw)
    exact .inr ⟨distinct.lookup hv, hSame⟩
  case h_8 vs ws =>
    obtain ⟨hLength, hEach⟩ := sameItems_iff.mp h
    refine .arrays hLength fun i a b ha hb => ?_
    exact .inr ⟨distinct.item (List.mem_of_getElem? ha), hEach i a b ha hb⟩
  case h_4 x y => exact .floats h
  case h_1 => exact .refl null
  case h_2 | h_3 | h_5 => exact eq_of_beq h ▸ .refl _
  case h_6 | h_7 => exact of_decide_eq_true h ▸ .refl _
  case h_10 => cases h

end Value

end Intake
