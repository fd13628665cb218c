import Intake.Proofs.Interleavings

/-! # The lives of records

However the operations on a service take turns, a record lives once: from the deed that inserts it
to the deed that removes it, with the same id, time of creation and product all the while. An update
that still holds a record which has been removed finds no place to put it.
-/

namespace Intake

namespace Table

variable {α : Type} [Record α] {t u : Table α} {r : α} {id : String}

/-- A table finds something else under one id than another table, and the same under all others. -/
def Sets (t : Table α) (id : String) (r? : Option α) (u : Table α) : Prop :=
  u.find? id = r? ∧ ∀ other, other ≠ id → u.find? other = t.find? other

theorem sets_insert? (h : t.insert? r = some u) : t.Sets (Record.id r) (some r) u :=
  ⟨find?_of_insert? h, fun _ hOther => find?_of_insert?_of_ne h hOther⟩

theorem sets_replace (h : t.contains (Record.id r) = true) :
    t.Sets (Record.id r) (some r) (t.replace r) :=
  ⟨find?_replace_self h, fun _ hOther => find?_replace_of_ne hOther⟩

theorem sets_remove (t : Table α) (id : String) : t.Sets id none (t.remove id) :=
  ⟨find?_remove_self t id, fun _ hOther => find?_remove_of_ne hOther⟩

theorem contains_eq_isSome (t : Table α) (id : String) : t.contains id = (t.find? id).isSome := by
  rw [Bool.eq_iff_iff, contains_eq_true_iff, Option.isSome_iff_exists]

end Table

namespace Tables

/-- The births of the records that are there, by their keys. -/
def birth? (t : Tables) (k : Key) : Option Birth :=
  match k.kind with
  | .product => (t.products.find? k.id).map Product.birth
  | .lead => (t.leads.find? k.id).map Lead.birth

def has (t : Tables) (k : Key) : Bool :=
  match k.kind with
  | .product => t.products.contains k.id
  | .lead => t.leads.contains k.id

theorem key_of_birth? {t : Tables} {k : Key} {b : Birth} (h : t.birth? k = some b) :
    b.toKey = k := by
  obtain ⟨kind, id⟩ := k
  cases kind with
  | product =>
    obtain ⟨p, hFind, rfl⟩ := Option.map_eq_some_iff.mp h
    exact congrArg (Key.mk .product) (Table.id_of_find? hFind)
  | lead =>
    obtain ⟨l, hFind, rfl⟩ := Option.map_eq_some_iff.mp h
    exact congrArg (Key.mk .lead) (Table.id_of_find? hFind)

theorem has_eq_isSome (t : Tables) (k : Key) : t.has k = (t.birth? k).isSome := by
  obtain ⟨kind, id⟩ := k
  cases kind with
  | product => exact (Table.contains_eq_isSome _ _).trans Option.isSome_map.symm
  | lead => exact (Table.contains_eq_isSome _ _).trans Option.isSome_map.symm

end Tables

def Deed.lasts : Deed → Bool
  | inserted _ | removed _ => true
  | found _ | replaced _ => false

/-- What a deed, or a call that is none, makes of the births that are there. -/
inductive Deed.Makes (before after : Key → Option Birth) : Option Deed → Prop where
  | nothing (after_eq : after = before) : Makes before after none
  | inserted {b : Birth} (untaken : before b.toKey = none)
      (after_eq : after = Function.update before b.toKey (some b)) :
      Makes before after (some (.inserted b))
  | found {b : Birth} (there : before b.toKey = some b) (after_eq : after = before) :
      Makes before after (some (.found b))
  | replaced {b : Birth} (known : (before b.toKey).isSome)
      (after_eq : after = Function.update before b.toKey (some b)) :
      Makes before after (some (.replaced b))
  | removed {k : Key} (known : (before k).isSome)
      (after_eq : after = Function.update before k none) : Makes before after (some (.removed k))

/-- The births of the records of one kind are read off their table. -/
structure BornAs (α : Type) [Stored α] (birth : α → Birth) : Prop where
  key : ∀ r, (birth r).toKey = ⟨Record.kind α, Record.id r⟩
  birth? : ∀ (t : Tables) id,
    t.birth? ⟨Record.kind α, id⟩ = ((Stored.table t : Table α).find? id).map birth
  others : ∀ (t : Tables) (u : Table α) (k : Key), k.kind ≠ Record.kind α →
    (Stored.withTable t u).birth? k = t.birth? k

theorem bornAs_product : BornAs Product Product.birth where
  key _ := rfl
  birth? _ _ := rfl
  others t u k hKind := by
    obtain ⟨kind, id⟩ := k
    cases kind with
    | product => exact absurd rfl hKind
    | lead => rfl

theorem bornAs_lead : BornAs Lead Lead.birth where
  key _ := rfl
  birth? _ _ := rfl
  others t u k hKind := by
    obtain ⟨kind, id⟩ := k
    cases kind with
    | product => rfl
    | lead => exact absurd rfl hKind

namespace Store

variable {α β : Type} [Stored α] {birth : α → Birth} {s : Store}

theorem birth?_of_sets (born : BornAs α birth) {t : Tables} {u : Table α} {id : String}
    {r? : Option α} (h : (Stored.table t : Table α).Sets id r? u) :
    (Stored.withTable t u).birth? =
      Function.update t.birth? ⟨Record.kind α, id⟩ (r?.map birth) := by
  obtain ⟨hHere, hElsewhere⟩ := h
  funext ⟨kind, other⟩
  by_cases hKind : kind = Record.kind α
  · subst hKind
    rw [born.birth?, Stored.table_withTable]
    by_cases hOther : other = id
    · rw [hOther, hHere, Function.update_self]
    · have hKey : (⟨Record.kind α, other⟩ : Key) ≠ ⟨Record.kind α, id⟩ := by simpa using hOther
      rw [Function.update_of_ne hKey, born.birth?, hElsewhere other hOther]
  · have hKey : (⟨kind, other⟩ : Key) ≠ ⟨Record.kind α, id⟩ := fun h => hKind (congrArg Key.kind h)
    rw [Function.update_of_ne hKey, born.others t u _ hKind]

theorem isSome_birth?_iff (born : BornAs α birth) {t : Tables} {id : String} :
    (t.birth? ⟨Record.kind α, id⟩).isSome ↔ (Stored.table t : Table α).contains id = true := by
  rw [born.birth?, Option.isSome_map, Table.contains_eq_isSome]

variable {c : StoreCall Unit} {r : α}

theorem makes_insert (born : BornAs α birth) (call : perform c s = s.insert r)
    (deed : c.deedOf? () = some (.inserted (birth r))) :
    Deed.Makes s.tables.birth? (perform c s).2.tables.birth? (c.deed? (perform c s).1) := by
  rw [call]
  rcases insert_cases s r with ⟨u, hInsert, hOk, hTables⟩ | ⟨e, hError, hTables⟩
  · have hUntaken : (Stored.table s.tables : Table α).find? (Record.id r) = none :=
      Table.find?_eq_none_iff.mpr (Table.insert?_eq_some_iff.mp hInsert).1
    rw [hOk, hTables, StoreCall.deed?, deed]
    apply Deed.Makes.inserted
    · rw [born.key, born.birth?, hUntaken, Option.map_none]
    · rw [born.key]
      exact birth?_of_sets born (Table.sets_insert? hInsert)
  · rw [hError, hTables]
    exact .nothing rfl

theorem makes_update (born : BornAs α birth) (call : perform c s = s.update r)
    (deed : c.deedOf? () = some (.replaced (birth r))) :
    Deed.Makes s.tables.birth? (perform c s).2.tables.birth? (c.deed? (perform c s).1) := by
  rw [call]
  rcases update_cases s r with ⟨hKnown, hOk, hTables⟩ | ⟨e, hError, hTables⟩
  · rw [hOk, hTables, StoreCall.deed?, deed]
    apply Deed.Makes.replaced
    · rw [born.key]
      exact (isSome_birth?_iff born).mpr hKnown
    · rw [born.key]
      exact birth?_of_sets born (Table.sets_replace hKnown)
  · rw [hError, hTables]
    exact .nothing rfl

theorem makes_delete (born : BornAs α birth) {id : String} (call : perform c s = s.delete α id)
    (deed : c.deedOf? () = some (.removed ⟨Record.kind α, id⟩)) :
    Deed.Makes s.tables.birth? (perform c s).2.tables.birth? (c.deed? (perform c s).1) := by
  rw [call]
  rcases delete_cases α s id with ⟨hKnown, hOk, hTables⟩ | ⟨e, hError, hTables⟩
  · rw [hOk, hTables, StoreCall.deed?, deed]
    apply Deed.Makes.removed
    · exact (isSome_birth?_iff born).mpr hKnown
    · exact birth?_of_sets born (Table.sets_remove _ id)
  · rw [hError, hTables]
    exact .nothing rfl

theorem makes_get (born : BornAs α birth) {c : StoreCall α} {id : String}
    (call : perform c s = (s.get id, s)) (deed : ∀ r, c.deedOf? r = some (.found (birth r))) :
    Deed.Makes s.tables.birth? (perform c s).2.tables.birth? (c.deed? (perform c s).1) := by
  rw [call]
  cases hGet : (s.get id : Except StorageError α) with
  | error e => exact .nothing rfl
  | ok r =>
    have hFound := get_eq_ok_iff.mp hGet
    rw [StoreCall.deed?, deed]
    refine .found ?_ rfl
    rw [born.key, born.birth?, Table.id_of_find? hFound, hFound, Option.map_some]

theorem makes_perform (c : StoreCall β) (s : Store) :
    Deed.Makes s.tables.birth? (perform c s).2.tables.birth? (c.deed? (perform c s).1) := by
  cases c with
  | insertProduct p => exact makes_insert bornAs_product rfl rfl
  | getProduct id => exact makes_get bornAs_product rfl fun _ => rfl
  | updateProduct p => exact makes_update bornAs_product rfl rfl
  | deleteProduct id => exact makes_delete bornAs_product rfl rfl
  | insertLead l => exact makes_insert bornAs_lead rfl rfl
  | getLead id => exact makes_get bornAs_lead rfl fun _ => rfl
  | updateLead l => exact makes_update bornAs_lead rfl rfl
  | deleteLead id => exact makes_delete bornAs_lead rfl rfl
  | listProducts page => exact .nothing rfl
  | countProducts => exact .nothing rfl
  | listLeads productId? page => exact .nothing rfl
  | countLeads productId? => exact .nothing rfl

end Store

theorem Task.makes_step {α : Type} (t : Task α) (s : Service) :
    Deed.Makes s.store.tables.birth? (t.step s).service.store.tables.birth? (t.step s).deed? := by
  cases t with
  | call c next => exact Store.makes_perform c s.store
  | done a => exact .nothing rfl
  | note n next => exact .nothing rfl
  | count c next => exact .nothing rfl
  | read next => exact .nothing rfl

namespace Request

def newKey? (r : Request) : Option Key :=
  match r.deed? with
  | some (.inserted b) => some b.toKey
  | _ => none

theorem newKey?_of_deed? {r : Request} {b : Birth} (h : r.deed? = some (.inserted b)) :
    r.newKey? = some b.toKey := by
  rw [newKey?, h]

end Request

namespace Service

/-- The ids of new records are neither taken nor used twice. -/
structure FreshKeys (s : Service) (requests : List Request) : Prop where
  distinct : (requests.filterMap Request.newKey?).Nodup
  untaken : ∀ k ∈ requests.filterMap Request.newKey?, s.store.tables.has k = false

variable {s : Service} {requests : List Request}

theorem FreshKeys.birth? (fresh : s.FreshKeys requests) {i : Nat} {r : Request} {b : Birth}
    (asked : requests[i]? = some r) (deed : r.deed? = some (.inserted b)) :
    s.store.tables.birth? b.toKey = none := by
  have hMem : b.toKey ∈ requests.filterMap Request.newKey? :=
    List.mem_filterMap.mpr ⟨r, List.mem_of_getElem? asked, Request.newKey?_of_deed? deed⟩
  have hUntaken := fresh.untaken _ hMem
  rw [Tables.has_eq_isSome] at hUntaken
  exact Option.isNone_iff_eq_none.mp (Option.isSome_eq_false_iff.mp hUntaken)

theorem FreshKeys.unique (fresh : s.FreshKeys requests) {i j : Nat} {r r' : Request} {b b' : Birth}
    (asked : requests[i]? = some r) (asked' : requests[j]? = some r')
    (deed : r.deed? = some (.inserted b)) (deed' : r'.deed? = some (.inserted b'))
    (key : b.toKey = b'.toKey) : i = j := by
  have hPairs := List.pairwise_filterMap.mp fresh.distinct
  have hOther {i j : Nat} {r r' : Request} (hLt : i < j) (asked : requests[i]? = some r)
      (asked' : requests[j]? = some r') (k : Key) (hNew : r.newKey? = some k)
      (hNew' : r'.newKey? = some k) : False := by
    obtain ⟨hi, rfl⟩ := List.getElem?_eq_some_iff.mp asked
    obtain ⟨hj, rfl⟩ := List.getElem?_eq_some_iff.mp asked'
    exact List.pairwise_iff_getElem.mp hPairs i j hi hj hLt k hNew k hNew' rfl
  have hNew := Request.newKey?_of_deed? deed
  have hNew' := key ▸ Request.newKey?_of_deed? deed'
  rcases Nat.lt_trichotomy i j with hLt | hEq | hGt
  · exact (hOther hLt asked asked' _ hNew hNew').elim
  · exact hEq
  · exact (hOther hGt asked' asked _ hNew' hNew).elim

end Service

namespace History

def of (history : History) (i : Nat) : List Deed :=
  (history.filter fun entry => entry.1 = i).map Prod.snd

theorem mem_of {history : History} {i : Nat} {d : Deed} : d ∈ history.of i ↔ (i, d) ∈ history := by
  simp [of]

/-- The record was there at the start, or it has been inserted since. -/
def Knows (s : Service) (history : History) (b : Birth) : Prop :=
  s.store.tables.birth? b.toKey = some b ∨ ∃ i, (i, .inserted b) ∈ history

def HasRemoved (history : History) (k : Key) : Prop := ∃ i, (i, .removed k) ∈ history

/-- Records are made and taken away by those that were asked to. -/
def Asked (requests : List Request) (history : History) : Prop :=
  ∀ i d, (i, d) ∈ history → d.lasts = true → ∃ r, requests[i]? = some r ∧ r.deed? = some d

/-- A history tells which records are there: those that it knows and has not removed. -/
structure Tells (s : Service) (requests : List Request) (history : History)
    (births : Key → Option Birth) : Prop where
  asked : history.Asked requests
  alive : ∀ k b, births k = some b ↔ b.toKey = k ∧ history.Knows s b ∧ ¬history.HasRemoved k
  found : ∀ i b, (i, .found b) ∈ history → history.Knows s b
  removed : ∀ k, history.HasRemoved k → ∃ b, b.toKey = k ∧ history.Knows s b
  once : ∀ k, (history.filter fun entry => entry.2 = .removed k).length ≤ 1

variable {s : Service} {requests : List Request} {history : History}

theorem Asked.unique (asked : history.Asked requests) (fresh : s.FreshKeys requests)
    {b b' : Birth} (known : history.Knows s b) (known' : history.Knows s b')
    (key : b.toKey = b'.toKey) : b = b' := by
  rcases known with hFirst | ⟨i, hInserted⟩
  · rcases known' with hFirst' | ⟨j, hInserted'⟩
    · rw [key, hFirst'] at hFirst
      cases hFirst
      rfl
    · obtain ⟨r', hAsked', hDeed'⟩ := asked j _ hInserted' rfl
      rw [key, fresh.birth? hAsked' hDeed'] at hFirst
      cases hFirst
  · obtain ⟨r, hAsked, hDeed⟩ := asked i _ hInserted rfl
    rcases known' with hFirst' | ⟨j, hInserted'⟩
    · rw [← key, fresh.birth? hAsked hDeed] at hFirst'
      cases hFirst'
    · obtain ⟨r', hAsked', hDeed'⟩ := asked j _ hInserted' rfl
      obtain rfl := fresh.unique hAsked hAsked' hDeed hDeed' key
      rw [hAsked] at hAsked'
      cases hAsked'
      rw [hDeed] at hDeed'
      cases hDeed'
      rfl

theorem mem_append_deed {i j : Nat} {d d' : Deed} :
    (j, d') ∈ history ++ [(i, d)] ↔ (j, d') ∈ history ∨ j = i ∧ d' = d := by
  simp

theorem Knows.append {b : Birth} (h : history.Knows s b) (more : History) :
    (history ++ more).Knows s b := by
  rcases h with hFirst | ⟨i, hMem⟩
  · exact .inl hFirst
  · exact .inr ⟨i, List.mem_append_left more hMem⟩

theorem knows_append_iff {i : Nat} {d : Deed} {b : Birth} :
    (history ++ [(i, d)]).Knows s b ↔ history.Knows s b ∨ d = .inserted b := by
  simp only [Knows, mem_append_deed, exists_or, or_assoc]
  simp [eq_comm]

theorem hasRemoved_append_iff {i : Nat} {d : Deed} {k : Key} :
    (history ++ [(i, d)]).HasRemoved k ↔ history.HasRemoved k ∨ d = .removed k := by
  simp only [HasRemoved, mem_append_deed, exists_or]
  simp [eq_comm]

theorem Asked.append (asked : history.Asked requests) {i : Nat} {d : Deed} {r : Request}
    (asker : requests[i]? = some r) (allowed : r.Allows (history.of i) d) :
    (history ++ [(i, d)]).Asked requests := by
  intro j d' hMem hLasts
  rcases mem_append_deed.mp hMem with hBefore | ⟨rfl, rfl⟩
  · exact asked j d' hBefore hLasts
  · refine ⟨r, asker, ?_⟩
    cases d' with
    | inserted b => exact allowed.1
    | removed k => exact allowed.1
    | found b => cases hLasts
    | replaced b => cases hLasts

theorem removals_append_of_ne {i : Nat} {d : Deed} {k : Key} (h : d ≠ .removed k) :
    ((history ++ [(i, d)]).filter fun entry => entry.2 = .removed k) =
      history.filter fun entry => entry.2 = .removed k := by
  rw [List.filter_append, List.filter_cons_of_neg (by simpa using h), List.filter_nil,
    List.append_nil]

namespace Tells

variable {births births' : Key → Option Birth} {i : Nat}

theorem append_of_not_lasts (h : Tells s requests history births) {d : Deed}
    (asked : (history ++ [(i, d)]).Asked requests) (passing : d.lasts = false)
    (found : ∀ b, d = .found b → history.Knows s b) :
    Tells s requests (history ++ [(i, d)]) births := by
  have hInserted (b : Birth) : d ≠ .inserted b := by
    rintro rfl
    cases passing
  have hRemoved (k : Key) : d ≠ .removed k := by
    rintro rfl
    cases passing
  constructor
  case asked => exact asked
  case alive =>
    intro k b
    rw [knows_append_iff, hasRemoved_append_iff, or_iff_left (hInserted b),
      or_iff_left (hRemoved k)]
    exact h.alive k b
  case found =>
    intro j b hMem
    rcases mem_append_deed.mp hMem with hBefore | ⟨-, hNow⟩
    · exact (h.found j b hBefore).append _
    · exact (found b hNow.symm).append _
  case removed =>
    intro k hGone
    rw [hasRemoved_append_iff, or_iff_left (hRemoved k)] at hGone
    obtain ⟨b, hKey, hKnown⟩ := h.removed k hGone
    exact ⟨b, hKey, hKnown.append _⟩
  case once =>
    intro k
    rw [removals_append_of_ne (hRemoved k)]
    exact h.once k

/-- What an operation is allowed to insert has never been there. -/
theorem not_knows (h : Tells s requests history births) (fresh : s.FreshKeys requests) {b : Birth}
    {r : Request} (asker : requests[i]? = some r)
    (allowed : r.Allows (history.of i) (.inserted b)) : ¬history.Knows s b := by
  obtain ⟨hDeed, hFirstTime⟩ := allowed
  rintro (hFirst | ⟨j, hInserted⟩)
  · rw [fresh.birth? asker hDeed] at hFirst
    cases hFirst
  · obtain ⟨r', hAsked', hDeed'⟩ := h.asked j _ hInserted rfl
    obtain rfl := fresh.unique hAsked' asker hDeed' hDeed rfl
    exact hFirstTime (mem_of.mpr hInserted)

theorem append_inserted (h : Tells s requests history births) (fresh : s.FreshKeys requests)
    {b : Birth} {r : Request} (asker : requests[i]? = some r)
    (allowed : r.Allows (history.of i) (.inserted b))
    (after_eq : births' = Function.update births b.toKey (some b)) :
    Tells s requests (history ++ [(i, .inserted b)]) births' := by
  have hAsked := h.asked.append asker allowed
  have hNew : (history ++ [(i, Deed.inserted b)]).Knows s b := knows_append_iff.mpr (.inr rfl)
  -- A record of this key that had been removed would have been this one.
  have hNever : ¬history.HasRemoved b.toKey := by
    intro hGone
    obtain ⟨b', hKey, hKnown⟩ := h.removed _ hGone
    obtain rfl := hAsked.unique fresh (hKnown.append _) hNew hKey
    exact h.not_knows fresh asker allowed hKnown
  constructor
  case asked => exact hAsked
  case alive =>
    intro k b'
    rw [hasRemoved_append_iff, or_iff_left nofun, after_eq]
    by_cases hKey : k = b.toKey
    · rw [hKey, Function.update_self]
      constructor
      · rintro ⟨rfl⟩
        exact ⟨rfl, hNew, hNever⟩
      · rintro ⟨hKey', hKnown, -⟩
        rw [hAsked.unique fresh hKnown hNew hKey']
    · rw [Function.update_of_ne hKey, h.alive, knows_append_iff]
      refine and_congr_right fun hKey' => ?_
      have hOther : Deed.inserted b ≠ .inserted b' := by
        rintro ⟨rfl⟩
        exact hKey hKey'.symm
      rw [or_iff_left hOther]
  case found =>
    intro j b' hMem
    rcases mem_append_deed.mp hMem with hBefore | ⟨-, hNow⟩
    · exact (h.found j b' hBefore).append _
    · cases hNow
  case removed =>
    intro k hGone
    rw [hasRemoved_append_iff, or_iff_left nofun] at hGone
    obtain ⟨b', hKey, hKnown⟩ := h.removed k hGone
    exact ⟨b', hKey, hKnown.append _⟩
  case once =>
    intro k
    have hOther : Deed.inserted b ≠ .removed k := nofun
    rw [removals_append_of_ne hOther]
    exact h.once k

theorem append_removed (h : Tells s requests history births) {k : Key}
    (asked : (history ++ [(i, Deed.removed k)]).Asked requests) (known : (births k).isSome)
    (after_eq : births' = Function.update births k none) :
    Tells s requests (history ++ [(i, .removed k)]) births' := by
  obtain ⟨b, hThere⟩ := Option.isSome_iff_exists.mp known
  obtain ⟨hKey, hKnown, hNever⟩ := (h.alive k b).mp hThere
  constructor
  case asked => exact asked
  case alive =>
    intro k' b'
    rw [knows_append_iff, or_iff_left nofun, hasRemoved_append_iff, after_eq]
    by_cases hHere : k' = k
    · rw [hHere, Function.update_self]
      simp
    · have hOther : Deed.removed k ≠ .removed k' := by
        rintro ⟨rfl⟩
        exact hHere rfl
      rw [Function.update_of_ne hHere, or_iff_left hOther, h.alive]
  case found =>
    intro j b' hMem
    rcases mem_append_deed.mp hMem with hBefore | ⟨-, hNow⟩
    · exact (h.found j b' hBefore).append _
    · cases hNow
  case removed =>
    intro k' hGone
    rcases hasRemoved_append_iff.mp hGone with hBefore | hNow
    · obtain ⟨b', hKey', hKnown'⟩ := h.removed k' hBefore
      exact ⟨b', hKey', hKnown'.append _⟩
    · cases hNow
      exact ⟨b, hKey, hKnown.append _⟩
  case once =>
    intro k'
    by_cases hHere : k' = k
    · have hNone : (history.filter fun entry => entry.2 = .removed k) = [] := by
        rw [List.filter_eq_nil_iff]
        rintro ⟨j, d⟩ hMem hRemoved
        exact hNever ⟨j, of_decide_eq_true hRemoved ▸ hMem⟩
      rw [hHere, List.filter_append, hNone, List.nil_append]
      exact List.length_filter_le _ _
    · have hOther : Deed.removed k ≠ .removed k' := by
        rintro ⟨rfl⟩
        exact hHere rfl
      rw [removals_append_of_ne hOther]
      exact h.once k'

theorem turn (h : Tells s requests history births) (fresh : s.FreshKeys requests) {r : Request}
    (asker : requests[i]? = some r) {deed? : Option Deed}
    (allowed : ∀ d, deed? = some d → r.Allows (history.of i) d)
    (made : Deed.Makes births births' deed?) :
    Tells s requests (history ++ deed?.toList.map fun d => (i, d)) births' := by
  cases made with
  | nothing after_eq =>
    subst after_eq
    rwa [Option.toList_none, List.map_nil, List.append_nil]
  | inserted untaken after_eq => exact h.append_inserted fresh asker (allowed _ rfl) after_eq
  | @found b there after_eq =>
    subst after_eq
    have hKnown := ((h.alive _ _).mp there).2.1
    apply h.append_of_not_lasts (h.asked.append asker (allowed _ rfl)) rfl
    rintro b' ⟨rfl⟩
    exact hKnown
  | @replaced b known after_eq =>
    -- The operation has found this very record, and no other of its key has ever been there.
    obtain ⟨b', hThere⟩ := Option.isSome_iff_exists.mp known
    obtain ⟨hKey, hKnown', -⟩ := (h.alive _ _).mp hThere
    have hKnown : history.Knows s b := h.found i b (mem_of.mp (allowed _ rfl))
    obtain rfl := h.asked.unique fresh hKnown hKnown' hKey.symm
    rw [← hThere, Function.update_eq_self] at after_eq
    subst after_eq
    exact h.append_of_not_lasts (h.asked.append asker (allowed _ rfl)) rfl nofun
  | removed known after_eq =>
    exact h.append_removed (h.asked.append asker (allowed _ rfl)) known after_eq

end Tells

theorem of_append (history : History) (i j : Nat) (ds : List Deed) :
    of (history ++ ds.map fun d => (i, d)) j = history.of j ++ if i = j then ds else [] := by
  simp only [of, List.filter_append, List.map_append, List.filter_map, List.map_map]
  by_cases hSame : i = j
  · simp [hSame, Function.comp_def]
  · simp [hSame, Function.comp_def]

theorem eq_of_removed {k : Key} (h : (history.filter fun entry => entry.2 = .removed k).length ≤ 1)
    {i j : Nat} (first : (i, .removed k) ∈ history) (second : (j, .removed k) ∈ history) :
    i = j := by
  have hMem {i : Nat} (hRemoved : (i, .removed k) ∈ history) :
      (i, .removed k) ∈ history.filter fun entry => entry.2 = .removed k :=
    List.mem_filter.mpr ⟨hRemoved, decide_eq_true rfl⟩
  obtain ⟨m, hm, hFirst⟩ := List.getElem_of_mem (hMem first)
  obtain ⟨n, hn, hSecond⟩ := List.getElem_of_mem (hMem second)
  obtain rfl : m = n := by omega
  exact congrArg Prod.fst (hFirst.symm.trans hSecond)

end History

namespace Crowd

variable {policy : Policy} {s : Service} {requests : List Request} {c : Crowd}

/-- Every operation keeps to its request, and the history tells which records are there. -/
structure Sound (s : Service) (requests : List Request) (c : Crowd) : Prop where
  keeps : ∀ i (t : Task (Except ServiceError Answer)), c.tasks[i]? = some t →
    ∃ r, requests[i]? = some r ∧ t.Keeps r r.Settles (c.history.of i)
  tells : c.history.Tells s requests c.service.store.tables.birth?

theorem sound_start [Pattern.Engine] (policy : Policy) (s : Service) (requests : List Request) :
    Sound s requests (start policy s requests) := by
  constructor
  · intro i t hTask
    rw [start, List.getElem?_map] at hTask
    obtain ⟨r, hAsked, rfl⟩ := Option.map_eq_some_iff.mp hTask
    exact ⟨r, hAsked, Operation.keeps_operation policy r⟩
  · -- Nothing has been done, so the history knows the records of the first tables and no others.
    have hNothing (k : Key) : ¬History.HasRemoved [] k := by
      rintro ⟨i, hRemoved⟩
      cases hRemoved
    constructor
    case asked =>
      intro i d hMem
      cases hMem
    case alive =>
      intro k b
      constructor
      · intro hThere
        obtain rfl := Tables.key_of_birth? hThere
        exact ⟨rfl, .inl hThere, hNothing _⟩
      · rintro ⟨rfl, hFirst | ⟨i, hInserted⟩, -⟩
        · exact hFirst
        · cases hInserted
    case found =>
      intro i b hMem
      cases hMem
    case removed =>
      intro k hGone
      exact absurd hGone (hNothing k)
    case once =>
      intro k
      exact Nat.zero_le 1

theorem Sound.turn (h : Sound s requests c) (fresh : s.FreshKeys requests) (i : Nat) :
    Sound s requests (c.turn i) := by
  cases hTask : c.tasks[i]? with
  | none =>
    rwa [Crowd.turn, hTask]
  | some t =>
    obtain ⟨r, hAsked, hKeeps⟩ := h.keeps i t hTask
    obtain ⟨hAllowed, hLeft⟩ := hKeeps.step c.service
    rw [turn_of_task hTask]
    refine ⟨fun j t' hTask' => ?_, h.tells.turn fresh hAsked hAllowed (t.makes_step c.service)⟩
    dsimp only at hTask' ⊢
    rw [History.of_append]
    by_cases hSame : i = j
    · subst hSame
      rw [List.getElem?_set_self (List.getElem?_eq_some_iff.mp hTask).1] at hTask'
      cases hTask'
      rw [if_pos rfl]
      exact ⟨r, hAsked, hLeft⟩
    · rw [List.getElem?_set_ne hSame] at hTask'
      rw [if_neg hSame, List.append_nil]
      exact h.keeps j t' hTask'

theorem Sound.run (h : Sound s requests c) (fresh : s.FreshKeys requests) (schedule : List Nat) :
    Sound s requests (c.run schedule) := by
  induction schedule generalizing c with
  | nil => exact h
  | cons i rest ih => exact ih (h.turn fresh i)

theorem history_turn (c : Crowd) (i : Nat) : c.history <+: (c.turn i).history := by
  cases hTask : c.tasks[i]? with
  | none => simp [turn, hTask]
  | some t =>
    rw [turn_of_task hTask]
    exact List.prefix_append _ _

theorem history_run (c : Crowd) (schedule : List Nat) : c.history <+: (c.run schedule).history := by
  induction schedule generalizing c with
  | nil => exact List.prefix_refl _
  | cons i rest ih => exact (history_turn c i).trans (ih (c.turn i))

/-- What holds of the records of a crowd at two moments, the second of them later. -/
structure LivesOnce (requests : List Request) (now later : Crowd) : Prop where
  /-- What has been removed is never there again. -/
  gone : ∀ i k, (i, .removed k) ∈ now.history → later.service.store.tables.has k = false
  /-- What is there or has been inserted stays until it is removed. -/
  stays : ∀ k, (now.service.store.tables.has k = true ∨
      ∃ i b, (i, .inserted b) ∈ now.history ∧ b.toKey = k) →
    (∀ i, (i, .removed k) ∉ later.history) → later.service.store.tables.has k = true
  products : ∀ id p p', now.service.store.tables.products.find? id = some p →
    later.service.store.tables.products.find? id = some p' →
      p'.id = p.id ∧ p'.createdAt = p.createdAt
  leads : ∀ id l l', now.service.store.tables.leads.find? id = some l →
    later.service.store.tables.leads.find? id = some l' →
      l'.id = l.id ∧ l'.createdAt = l.createdAt ∧ l'.productId = l.productId
  /-- Only those that were asked to make or to remove a record do so. -/
  asked : ∀ i d, (i, d) ∈ later.history → d.lasts = true →
    ∃ r, requests[i]? = some r ∧ r.deed? = some d
  /-- They succeed if and only if they have done it. -/
  settled : ∀ i r d result, requests[i]? = some r → r.deed? = some d →
    later.result? i = some result → ((i, d) ∈ later.history ↔ ∃ a, result = .ok a)
  /-- No record is removed twice, -/
  removedOnce : ∀ k, (later.history.filter fun entry => entry.2 = .removed k).length ≤ 1
  /-- and so no two requests to remove one record succeed. -/
  deletedOnce : ∀ i j r r' k a a', requests[i]? = some r → requests[j]? = some r' →
    r.deed? = some (.removed k) → r'.deed? = some (.removed k) →
      later.result? i = some (.ok a) → later.result? j = some (.ok a') → i = j

theorem Sound.settled (h : Sound s requests c) {i : Nat} {r : Request} {d : Deed}
    {result : Except ServiceError Answer} (asked : requests[i]? = some r) (deed : r.deed? = some d)
    (ended : c.result? i = some result) : (i, d) ∈ c.history ↔ ∃ a, result = .ok a := by
  rw [result?] at ended
  split at ended
  · next done hTask =>
    cases ended
    obtain ⟨r', hAsked', hSettles⟩ := h.keeps i _ hTask
    rw [asked] at hAsked'
    cases hAsked'
    rw [← History.mem_of]
    exact hSettles d deed
  · cases ended

theorem Sound.has_iff (h : Sound s requests c) {k : Key} :
    c.service.store.tables.has k = true ↔
      (∃ b, b.toKey = k ∧ c.history.Knows s b) ∧ ¬c.history.HasRemoved k := by
  rw [Tables.has_eq_isSome, Option.isSome_iff_exists]
  constructor
  · rintro ⟨b, hThere⟩
    obtain ⟨hKey, hKnown, hNever⟩ := (h.tells.alive k b).mp hThere
    exact ⟨⟨b, hKey, hKnown⟩, hNever⟩
  · rintro ⟨⟨b, hKey, hKnown⟩, hNever⟩
    exact ⟨b, (h.tells.alive k b).mpr ⟨hKey, hKnown, hNever⟩⟩

/-- Two records of one key, found at different times, are one. -/
theorem Sound.same_birth {now later : Crowd} (hNow : Sound s requests now)
    (hLater : Sound s requests later) (fresh : s.FreshKeys requests)
    (le : now.history <+: later.history) {k : Key} {b b' : Birth}
    (first : now.service.store.tables.birth? k = some b)
    (second : later.service.store.tables.birth? k = some b') : b' = b := by
  obtain ⟨hKey, hKnown, -⟩ := (hNow.tells.alive k b).mp first
  obtain ⟨hKey', hKnown', -⟩ := (hLater.tells.alive k b').mp second
  obtain ⟨more, hMore⟩ := le
  have hKnownLater : later.history.Knows s b := hMore ▸ hKnown.append more
  exact hLater.tells.asked.unique fresh hKnown' hKnownLater (hKey'.trans hKey.symm)

/-- Whatever operations run on a service at the same time, and in whatever order their calls to the
store come: if the ids of new records are fresh, every record lives once. -/
theorem records_live_once [Pattern.Engine] (policy : Policy) (s : Service) (requests : List Request)
    (fresh : s.FreshKeys requests) (first later : List Nat) :
    LivesOnce requests ((start policy s requests).run first)
      ((start policy s requests).run (first ++ later)) := by
  have hNow := (sound_start policy s requests).run fresh first
  have hLater := (sound_start policy s requests).run fresh (first ++ later)
  have hPrefix : ((start policy s requests).run first).history <+:
      ((start policy s requests).run (first ++ later)).history := by
    rw [run_append]
    exact history_run _ later
  generalize (start policy s requests).run first = now at hNow hPrefix ⊢
  generalize (start policy s requests).run (first ++ later) = last at hLater hPrefix ⊢
  constructor
  case gone =>
    intro i k hRemoved
    rw [← Bool.not_eq_true, hLater.has_iff]
    rintro ⟨-, hNever⟩
    exact hNever ⟨i, hPrefix.subset hRemoved⟩
  case stays =>
    intro k hThere hNever
    rw [hLater.has_iff]
    refine ⟨?_, fun ⟨i, hRemoved⟩ => hNever i hRemoved⟩
    obtain ⟨more, hMore⟩ := hPrefix
    rw [← hMore]
    rcases hThere with hHas | ⟨i, b, hInserted, hKey⟩
    · obtain ⟨⟨b, hKey, hKnown⟩, -⟩ := hNow.has_iff.mp hHas
      exact ⟨b, hKey, hKnown.append more⟩
    · have hKnown : now.history.Knows s b := .inr ⟨i, hInserted⟩
      exact ⟨b, hKey, hKnown.append more⟩
  case products =>
    intro id p p' hFind hFind'
    have hSame : p'.birth = p.birth := hNow.same_birth hLater fresh hPrefix (k := ⟨.product, id⟩)
      (congrArg (Option.map Product.birth) hFind) (congrArg (Option.map Product.birth) hFind')
    rw [Product.birth, Product.birth] at hSame
    injection hSame with hKey hProduct hCreated
    injection hKey with hKind hId
    exact ⟨hId, hCreated⟩
  case leads =>
    intro id l l' hFind hFind'
    have hSame : l'.birth = l.birth := hNow.same_birth hLater fresh hPrefix (k := ⟨.lead, id⟩)
      (congrArg (Option.map Lead.birth) hFind) (congrArg (Option.map Lead.birth) hFind')
    rw [Lead.birth, Lead.birth] at hSame
    injection hSame with hKey hProduct hCreated
    injection hKey with hKind hId
    injection hProduct with hProduct
    exact ⟨hId, hCreated, hProduct⟩
  case asked => exact hLater.tells.asked
  case settled =>
    intro i r d result hAsked hDeed hEnded
    exact hLater.settled hAsked hDeed hEnded
  case removedOnce => exact hLater.tells.once
  case deletedOnce =>
    intro i j r r' k a a' hAsked hAsked' hDeed hDeed' hOk hOk'
    have hFirst := (hLater.settled hAsked hDeed hOk).mpr ⟨a, rfl⟩
    have hSecond := (hLater.settled hAsked' hDeed' hOk').mpr ⟨a', rfl⟩
    exact History.eq_of_removed (hLater.tells.once k) hFirst hSecond

/-- An update has found its lead and checked its data when the lead is deleted; it then fails, as
does another request to delete the lead. -/
theorem records_live_once_update_beside_delete :
    let now : Instant := ⟨0, 0⟩
    let definition : Value := .object [("name", .object [("type", .text "string")])]
    let requests : List Request := [.createProduct "p" now ⟨"Loans", "", definition⟩,
      .createLead "l" now ⟨"p", .object [("name", .text "Jane")]⟩,
      .updateLead "l" now ⟨.object [("name", .text "Joan")]⟩, .deleteLead "l", .deleteLead "l"]
    let first := [0, 0, 0, 1, 1, 1, 1, 1, 2, 2, 2, 3]
    let later := [2, 3, 3, 4]
    let between := (start {} {} requests).run first
    let last := (start {} {} requests).run (first ++ later)
    let deeds : History := [(0, .inserted ⟨⟨.product, "p"⟩, none, now⟩),
      (1, .found ⟨⟨.product, "p"⟩, none, now⟩), (1, .inserted ⟨⟨.lead, "l"⟩, some "p", now⟩),
      (2, .found ⟨⟨.lead, "l"⟩, some "p", now⟩), (2, .found ⟨⟨.product, "p"⟩, none, now⟩),
      (3, .removed ⟨.lead, "l"⟩)]
    let lost : Except ServiceError Answer := .error (.notFound .lead "l")
    Service.FreshKeys {} requests ∧ LivesOnce requests between last ∧
      between.history = deeds ∧
      [2, 3, 4].map last.result? = [some lost, some (.ok .done), some lost] ∧
      last.service.store.tables.has ⟨.lead, "l"⟩ = false := by
  intro now definition requests first later between last deeds lost
  have hFresh : Service.FreshKeys {} requests := by
    constructor
    · decide
    · intro k _
      obtain ⟨kind, id⟩ := k
      cases kind <;> rfl
  have hLives : LivesOnce requests between last :=
    records_live_once {} {} requests hFresh first later
  have hHistory : between.history = deeds := by decide +kernel
  have hResults : [2, 3, 4].map last.result? = [some lost, some (.ok .done), some lost] := by
    decide +kernel
  have hRemoved : (3, .removed ⟨.lead, "l"⟩) ∈ between.history := by
    rw [hHistory]
    exact List.getLast_mem (List.cons_ne_nil _ _)
  exact ⟨hFresh, hLives, hHistory, hResults, hLives.gone 3 _ hRemoved⟩

end Crowd

end Intake
