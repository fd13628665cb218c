import Intake.Proofs.FirstOffence
import Intake.Proofs.StrictReading

/-! # Entries that are left out

What a lenient reading cannot pass over in an entry, and which entries it leaves out for that. They
are noted one by one, in the order of the document, as long as everything around them is read.
-/

namespace Intake

/-- The same fault with its place below a path. -/
def Malformed.below (path : List DefinitionStep) (m : Malformed) : Malformed :=
  ⟨path ++ m.path, m.fault⟩

namespace Definition

section Blockers

variable [Pattern.Engine]

mutual

/-- What stands in the way of reading a field leniently, with places from the field on. -/
def blockers (entries : Entries) : List Malformed :=
  match kind? entries with
  | none => faultsAt [] (kindFaults entries)
  | some kind => faultsAt [] (limitFaults kind entries) ++ innerBlockers kind entries
termination_by 3 * sizeOf entries + 2

/-- Entries inside an object or an array are left out by themselves, but the definition of an
element stands for the whole array. -/
def innerBlockers (kind : Kind) (entries : Entries) : List Malformed :=
  match kind with
  | .object =>
    match nestedEntry? entries with
    | none | some (_, .object _) => []
    | some (key, _) => faultsAt [] [.nestedNotMapping key]
  | .array =>
    match h : entries.lookup "items" with
    | none => []
    | some raw =>
      have := Value.lookup_sizeOf h
      itemsBlockers raw
  | _ => []
termination_by 3 * sizeOf entries + 1

def itemsBlockers (raw : Value) : List Malformed :=
  match raw with
  | .text name =>
    if (Kind.ofName? name).isSome then [] else faultsAt [.items] [.typeUnknown name]
  | .object entries =>
    if describesElement entries then (blockers entries).map (.below [.items]) else []
  | _ => faultsAt [] [.itemsUnreadable]
termination_by 3 * sizeOf raw

end

def entryBlockers (name : String) (raw : Value) : List Malformed :=
  faultsAt [] (nameFaults name) ++
    match raw with
    | .object entries => blockers entries
    | _ => faultsAt [] [.notMapping]

end Blockers

variable {entries : Entries} {kind : Kind} {path : List DefinitionStep}

section Shapes

variable [Pattern.Engine]

theorem innerBlockers_array (entries : Entries) :
    innerBlockers .array entries =
      match entries.lookup "items" with
      | none => []
      | some raw => itemsBlockers raw := by
  rw [innerBlockers]
  split <;> next hItems => simp only [hItems]

theorem innerBlockers_of_flat (object : kind ≠ .object) (array : kind ≠ .array) :
    innerBlockers kind entries = [] := by
  cases kind <;> first | contradiction | (rw [innerBlockers]; all_goals nofun)

theorem readShape_array_lenient (entries : Entries) :
    readShape .lenient path .array entries =
      match entries.lookup "items" with
      | none => .ok (.array none, [])
      | some raw =>
        (readItems .lenient path raw).map fun (items, noted) => (.array (some items), noted) := by
  rw [readShape]
  split <;> next hItems => simp only [hItems]

end Shapes

section Blocked

theorem below_faultsAt (faults : List Fault) :
    (faultsAt [] faults).map (.below path) = faultsAt path faults := by
  simp [faultsAt, Malformed.below]

theorem below_below (path' : List DefinitionStep) (found : List Malformed) :
    (found.map (Malformed.below path')).map (Malformed.below path) =
      found.map (Malformed.below (path ++ path')) := by
  simp [Malformed.below]

variable [Pattern.Engine]

theorem exists_readFields_lenient (path : List DefinitionStep) (entries : Entries) :
    ∃ s noted, readFields .lenient path entries = .ok (s, noted) := by
  induction entries with
  | nil =>
    rw [readFields]
    exact ⟨_, _, rfl⟩
  | cons m rest ih =>
    obtain ⟨name, raw⟩ := m
    obtain ⟨s, noted, hRest⟩ := ih
    rw [readFields, hRest]
    cases readEntry .lenient (path ++ [.field name]) name raw with
    | error e => exact ⟨_, _, rfl⟩
    | ok read => exact ⟨_, _, rfl⟩

theorem settled_readField_lenient_of_kind (h : kind? entries = some kind) :
    settled (readField .lenient path entries) =
      settled (readShape .lenient path kind entries) := by
  have hRequired : ∃ required, readRequired .lenient entries = .ok required := by
    rw [readRequired.eq_def]
    cases entries.lookup "required" with
    | none => exact ⟨_, rfl⟩
    | some v => cases v <;> exact ⟨_, rfl⟩
  obtain ⟨required, hRequired⟩ := hRequired
  rw [readField, readKind_eq_ok_iff.mpr h, hRequired]
  dsimp only [blame, checkKeys]
  cases readShape .lenient path kind entries <;> rfl

mutual

theorem settled_readField_lenient (path : List DefinitionStep) (entries : Entries) :
    settled (readField .lenient path entries) = firstOf ((blockers entries).map (.below path)) := by
  rw [blockers]
  cases hKind : kind? entries with
  | none =>
    have hFaults : settled (readKind entries) = firstOf (kindFaults entries) := settled_readKind
    dsimp only
    rw [below_faultsAt, ← blame_firstOf, ← hFaults, readField]
    cases hRead : readKind entries with
    | error e => rfl
    | ok kind =>
      rw [readKind_eq_ok_iff.mp hRead] at hKind
      cases hKind
  | some kind =>
    dsimp only
    rw [settled_readField_lenient_of_kind hKind, settled_readShape_lenient path kind entries,
      List.map_append, below_faultsAt]
termination_by 3 * sizeOf entries + 2

theorem settled_readShape_lenient (path : List DefinitionStep) (kind : Kind) (entries : Entries) :
    settled (readShape .lenient path kind entries) = firstOf
      (faultsAt path (limitFaults kind entries) ++
        (innerBlockers kind entries).map (.below path)) := by
  cases kind with
  | object =>
    rw [readShape_object, innerBlockers]
    cases hNested : nestedEntry? entries with
    | none => rfl
    | some found =>
      obtain ⟨key, raw⟩ := found
      cases raw with
      | object inner =>
        obtain ⟨s, noted, hRead⟩ := exists_readFields_lenient path inner
        dsimp only
        rw [hRead]
        rfl
      | _ => simp [limitFaults, settled, firstOf, faultsAt, Except.map, Malformed.below]
  | array =>
    rw [readShape_array_lenient, innerBlockers_array]
    cases hItems : entries.lookup "items" with
    | none => rfl
    | some raw =>
      have hSize : sizeOf raw < sizeOf entries := Value.lookup_sizeOf hItems
      dsimp only
      rw [settled_map, settled_readItems_lenient path raw]
      rfl
  | _ =>
    all_goals
      rw [readShape_eq_of_flat (by simp) (by simp) .strict,
        settled_readShape_of_flat (by simp) (by simp), innerBlockers_of_flat (by simp) (by simp),
        List.map_nil, List.append_nil]
termination_by 3 * sizeOf entries + 1

theorem settled_readItems_lenient (path : List DefinitionStep) (raw : Value) :
    settled (readItems .lenient path raw) =
      firstOf ((itemsBlockers raw).map (.below path)) := by
  rw [readItems.eq_def, itemsBlockers.eq_def]
  cases raw with
  | text name =>
    cases h : Kind.ofName? name with
    | none => simp [h, settled, faultsAt, firstOf, Except.map, Malformed.below]
    | some kind => simp [h, settled, firstOf, Except.map]
  | object entries =>
    dsimp only
    split
    · rw [settled_map, settled_readField_lenient (path ++ [DefinitionStep.items]) entries,
        below_below]
    · obtain ⟨s, noted, hRead⟩ := exists_readFields_lenient (path ++ [.items]) entries
      rw [hRead]
      rfl
  | _ => simp [settled, faultsAt, firstOf, Except.map, Malformed.below]
termination_by 3 * sizeOf raw

end

theorem settled_readEntry_lenient (path : List DefinitionStep) (name : String) (raw : Value) :
    settled (readEntry .lenient path name raw) =
      firstOf ((entryBlockers name raw).map (.below path)) := by
  rw [readEntry.eq_def, entryBlockers.eq_def, List.map_append, below_faultsAt, firstOf_append,
    ← blame_firstOf, ← checkName_eq_firstOf]
  cases checkName name with
  | error e => rfl
  | ok =>
    cases raw with
    | object entries => exact settled_readField_lenient path entries
    | _ => simp [blame, settled, faultsAt, firstOf, Except.map, Malformed.below, bind, Except.bind]

end Blocked

section Occurrences

variable [Pattern.Engine]

/-- Whether a lenient reading keeps an entry. -/
def keeps (name : String) (raw : Value) : Bool := (entryBlockers name raw).isEmpty

theorem keeps_iff_readEntry (path : List DefinitionStep) {name : String} {raw : Value} :
    keeps name raw = true ↔ ∃ read, readEntry .lenient path name raw = .ok read := by
  rw [← settled_eq_ok_iff, settled_readEntry_lenient, firstOf_eq_ok_iff, List.map_eq_nil_iff,
    keeps, List.isEmpty_iff]

theorem blocker_of_readEntry_lenient {name : String} {raw : Value} {e : Malformed}
    (h : readEntry .lenient path name raw = .error e) :
    ∃ m, (entryBlockers name raw).head? = some m ∧ e = m.below path := by
  have hError := settled_eq_error_iff.mpr h
  rw [settled_readEntry_lenient, firstOf_eq_error_iff, List.head?_map] at hError
  obtain ⟨m, hHead, rfl⟩ := Option.map_eq_some_iff.mp hError
  exact ⟨m, hHead, rfl⟩

/-- An entry where it stands, with the entries around it. -/
structure Occurrence where
  path : List DefinitionStep
  name : String
  raw : Value
  within : Entries

/-- What is noted of an entry: the first thing in its way, but nothing if an entry around it is
left out. -/
def Occurrence.skipped? (o : Occurrence) : Option Skipped :=
  if o.within.all fun (name, raw) => keeps name raw then
    (entryBlockers o.name o.raw).head?.map fun m => ⟨o.path, m.below o.path⟩
  else none

mutual

/-- The entries of a definition at every level, in the order of the document. -/
def occurrences (path : List DefinitionStep) (within entries : Entries) : List Occurrence :=
  match entries with
  | [] => []
  | (name, raw) :: rest =>
    ⟨path ++ [.field name], name, raw, within⟩ ::
      (entryOccurrences (path ++ [.field name]) (within ++ [(name, raw)]) raw ++
        occurrences path within rest)
termination_by 3 * sizeOf entries

def entryOccurrences (path : List DefinitionStep) (within : Entries) (raw : Value) :
    List Occurrence :=
  match raw with
  | .object entries => fieldOccurrences path within entries
  | _ => []
termination_by 3 * sizeOf raw

def fieldOccurrences (path : List DefinitionStep) (within entries : Entries) : List Occurrence :=
  match kind? entries with
  | none => []
  | some kind => innerOccurrences path within kind entries
termination_by 3 * sizeOf entries + 2

def innerOccurrences (path : List DefinitionStep) (within : Entries) (kind : Kind)
    (entries : Entries) : List Occurrence :=
  match kind with
  | .object =>
    match h : nestedEntry? entries with
    | some (_, .object inner) =>
      have : 1 + sizeOf inner < sizeOf entries := by simpa using nestedEntry?_sizeOf h
      occurrences path within inner
    | _ => []
  | .array =>
    match h : entries.lookup "items" with
    | none => []
    | some raw =>
      have := Value.lookup_sizeOf h
      itemsOccurrences path within raw
  | _ => []
termination_by 3 * sizeOf entries + 1

def itemsOccurrences (path : List DefinitionStep) (within : Entries) (raw : Value) :
    List Occurrence :=
  match raw with
  | .object entries =>
    if describesElement entries then fieldOccurrences (path ++ [.items]) within entries
    else occurrences (path ++ [.items]) within entries
  | _ => []
termination_by 3 * sizeOf raw

end

/-- The entries that a lenient reading leaves out, each with its reason. -/
def leftOut (entries : Entries) : List Skipped :=
  (occurrences [] [] entries).filterMap Occurrence.skipped?

end Occurrences

variable {within : Entries} {noted : List Skipped}

theorem innerOccurrences_object (entries : Entries) :
    innerOccurrences path within .object entries =
      match nestedEntry? entries with
      | some (_, .object inner) => occurrences path within inner
      | _ => [] := by
  rw [innerOccurrences]
  split <;> simp_all

theorem innerOccurrences_array (entries : Entries) :
    innerOccurrences path within .array entries =
      match entries.lookup "items" with
      | none => []
      | some raw => itemsOccurrences path within raw := by
  rw [innerOccurrences]
  split <;> next hItems => simp only [hItems]

theorem innerOccurrences_of_flat (object : kind ≠ .object) (array : kind ≠ .array) :
    innerOccurrences path within kind entries = [] := by
  cases kind <;> first | contradiction | (rw [innerOccurrences]; all_goals nofun)

-- Whatever stands inside an entry that is left out has that entry around it.
section Silence

variable {m : String × Value}

theorem skipped?_of_within_left_out [Pattern.Engine] {o : Occurrence} (hMem : m ∈ o.within)
    (hLeft : keeps m.1 m.2 = false) : o.skipped? = none := by
  refine if_neg fun hAll => ?_
  have hKeeps : keeps m.1 m.2 = true := List.all_eq_true.mp hAll m hMem
  rw [hLeft] at hKeeps
  cases hKeeps

mutual

theorem within_of_mem_occurrences {path : List DefinitionStep} {within : Entries} {o : Occurrence} :
    (entries : Entries) → o ∈ occurrences path within entries → within ⊆ o.within
  | [], h => by
    rw [occurrences] at h
    cases h
  | (name, raw) :: rest, h => by
    rw [occurrences] at h
    rcases List.mem_cons.mp h with rfl | h
    · exact List.Subset.refl _
    rcases List.mem_append.mp h with h | h
    · have hWithin : within ++ [(name, raw)] ⊆ o.within := within_of_mem_entryOccurrences raw h
      exact (List.append_subset.mp hWithin).1
    · exact within_of_mem_occurrences rest h
termination_by entries => 3 * sizeOf entries

theorem within_of_mem_entryOccurrences {path : List DefinitionStep} {within : Entries}
    {o : Occurrence} :
    (raw : Value) → o ∈ entryOccurrences path within raw → within ⊆ o.within
  | raw, h => by
    rw [entryOccurrences.eq_def] at h
    cases raw with
    | object entries => exact within_of_mem_fieldOccurrences entries h
    | _ => cases h
termination_by raw => 3 * sizeOf raw

theorem within_of_mem_fieldOccurrences {path : List DefinitionStep} {within : Entries}
    {o : Occurrence} :
    (entries : Entries) → o ∈ fieldOccurrences path within entries → within ⊆ o.within
  | entries, h => by
    rw [fieldOccurrences] at h
    cases hKind : kind? entries with
    | none =>
      rw [hKind] at h
      cases h
    | some kind =>
      rw [hKind] at h
      exact within_of_mem_innerOccurrences kind entries h
termination_by entries => 3 * sizeOf entries + 2

theorem within_of_mem_innerOccurrences {path : List DefinitionStep} {within : Entries}
    {o : Occurrence} : (kind : Kind) → (entries : Entries) →
    o ∈ innerOccurrences path within kind entries → within ⊆ o.within
  | kind, entries, h => by
    cases kind with
    | object =>
      rw [innerOccurrences_object] at h
      split at h
      · next inner hNested =>
        have hSize : 1 + sizeOf inner < sizeOf entries := by
          simpa using nestedEntry?_sizeOf hNested
        exact within_of_mem_occurrences inner h
      · cases h
    | array =>
      rw [innerOccurrences_array] at h
      split at h
      · cases h
      · next raw hItems =>
        have hSize : sizeOf raw < sizeOf entries := Value.lookup_sizeOf hItems
        exact within_of_mem_itemsOccurrences raw h
    | _ =>
      all_goals
        rw [innerOccurrences_of_flat (by simp) (by simp)] at h
        cases h
termination_by _ entries => 3 * sizeOf entries + 1

theorem within_of_mem_itemsOccurrences {path : List DefinitionStep} {within : Entries}
    {o : Occurrence} :
    (raw : Value) → o ∈ itemsOccurrences path within raw → within ⊆ o.within
  | raw, h => by
    rw [itemsOccurrences.eq_def] at h
    cases raw with
    | object entries =>
      dsimp only at h
      split at h
      · exact within_of_mem_fieldOccurrences entries h
      · exact within_of_mem_occurrences entries h
    | _ => cases h
termination_by raw => 3 * sizeOf raw

end

theorem filterMap_entryOccurrences_of_left_out [Pattern.Engine] {name : String} {raw : Value}
    (h : keeps name raw = false) :
    (entryOccurrences path (within ++ [(name, raw)]) raw).filterMap Occurrence.skipped? = [] := by
  rw [List.filterMap_eq_nil_iff]
  intro o hMem
  have hWithin := within_of_mem_entryOccurrences raw hMem
  exact skipped?_of_within_left_out (m := (name, raw)) (hWithin (by simp)) h

end Silence

variable [Pattern.Engine]

mutual

theorem noted_readFields {path : List DefinitionStep} {within : Entries} {noted : List Skipped}
    {s : Schema} (kept : within.all (fun (name, raw) => keeps name raw) = true) :
    (entries : Entries) → readFields .lenient path entries = .ok (s, noted) →
    noted = (occurrences path within entries).filterMap Occurrence.skipped?
  | [], h => by
    rw [readFields] at h
    cases h
    rw [occurrences]
    rfl
  | (name, raw) :: rest, h => by
    obtain ⟨others, notedRest, hRest⟩ := exists_readFields_lenient path rest
    have ihRest := noted_readFields kept rest hRest
    rw [readFields, hRest] at h
    rw [occurrences, List.filterMap_cons, List.filterMap_append, ← ihRest]
    cases hEntry : readEntry .lenient (path ++ [.field name]) name raw with
    | error e =>
      obtain ⟨m, hHead, rfl⟩ := blocker_of_readEntry_lenient hEntry
      have hLeft : keeps name raw = false := by
        rw [keeps, List.isEmpty_eq_false_iff]
        exact List.ne_nil_of_mem (List.mem_of_head? hHead)
      rw [hEntry] at h
      cases h
      rw [filterMap_entryOccurrences_of_left_out hLeft]
      simp [Occurrence.skipped?, kept, hHead]
    | ok read =>
      obtain ⟨f, notedEntry⟩ := read
      have hKeeps : keeps name raw = true := (keeps_iff_readEntry _).mpr ⟨_, hEntry⟩
      have hBlockers : entryBlockers name raw = [] := List.isEmpty_iff.mp hKeeps
      have kept' : (within ++ [(name, raw)]).all (fun (name, raw) => keeps name raw) = true := by
        simp [kept, hKeeps]
      have ihEntry := noted_readEntry kept' raw hEntry
      rw [hEntry] at h
      cases h
      rw [← ihEntry]
      simp [Occurrence.skipped?, hBlockers]
termination_by entries => 3 * sizeOf entries

theorem noted_readEntry {path : List DefinitionStep} {within : Entries} {noted : List Skipped}
    {name : String} {f : Field} (kept : within.all (fun (name, raw) => keeps name raw) = true) :
    (raw : Value) → readEntry .lenient path name raw = .ok (f, noted) →
    noted = (entryOccurrences path within raw).filterMap Occurrence.skipped?
  | raw, h => by
    obtain ⟨-, entries, rfl, hRead⟩ := readEntry_eq_ok_iff.mp h
    rw [entryOccurrences]
    exact noted_readField kept entries hRead
termination_by raw => 3 * sizeOf raw

theorem noted_readField {path : List DefinitionStep} {within : Entries} {noted : List Skipped}
    {f : Field} (kept : within.all (fun (name, raw) => keeps name raw) = true) :
    (entries : Entries) → readField .lenient path entries = .ok (f, noted) →
    noted = (fieldOccurrences path within entries).filterMap Occurrence.skipped?
  | entries, h => by
    obtain ⟨kind, required, shape, hKind, -, -, hShape, rfl⟩ := readField_eq_ok_iff.mp h
    rw [fieldOccurrences, readKind_eq_ok_iff.mp hKind]
    exact noted_readShape kept kind entries hShape
termination_by entries => 3 * sizeOf entries + 2

theorem noted_readShape {path : List DefinitionStep} {within : Entries} {noted : List Skipped}
    {shape : Shape} (kept : within.all (fun (name, raw) => keeps name raw) = true) :
    (kind : Kind) → (entries : Entries) →
    readShape .lenient path kind entries = .ok (shape, noted) →
    noted = (innerOccurrences path within kind entries).filterMap Occurrence.skipped?
  | kind, entries, h => by
    cases kind with
    | object =>
      rw [innerOccurrences_object]
      rcases readShape_object_eq_ok_iff.mp h with ⟨hNested, -, rfl⟩ |
        ⟨key, inner, s, hNested, hRead, -⟩
      · rw [hNested]
        rfl
      · have hSize : 1 + sizeOf inner < sizeOf entries := by
          simpa using nestedEntry?_sizeOf hNested
        rw [hNested]
        exact noted_readFields kept inner hRead
    | array =>
      rw [innerOccurrences_array]
      rcases readShape_array_eq_ok_iff.mp h with ⟨hItems, -, -, rfl⟩ |
        ⟨raw, items, hItems, hRead, -⟩
      · rw [hItems]
        rfl
      · have hSize : sizeOf raw < sizeOf entries := Value.lookup_sizeOf hItems
        rw [hItems]
        exact noted_readItems kept raw hRead
    | _ =>
      all_goals
        rw [innerOccurrences_of_flat (by simp) (by simp)]
        exact noted_of_flat (by simp) (by simp) h
termination_by _ entries => 3 * sizeOf entries + 1

theorem noted_readItems {path : List DefinitionStep} {within : Entries} {noted : List Skipped}
    {items : Items} (kept : within.all (fun (name, raw) => keeps name raw) = true) :
    (raw : Value) → readItems .lenient path raw = .ok (items, noted) →
    noted = (itemsOccurrences path within raw).filterMap Occurrence.skipped?
  | raw, h => by
    rcases readItems_eq_ok_iff.mp h with ⟨name, kind, rfl, -, -, rfl⟩ |
      ⟨entries, f, rfl, hDescribes, hRead, -⟩ | ⟨entries, s, rfl, hDescribes, hRead, -⟩
    · rw [itemsOccurrences.eq_def]
      rfl
    · rw [itemsOccurrences, if_pos hDescribes]
      exact noted_readField kept entries hRead
    · rw [itemsOccurrences, hDescribes]
      exact noted_readFields kept entries hRead
termination_by raw => 3 * sizeOf raw

end

/-- A lenient reading of a mapping never fails, and notes what `leftOut` lists. -/
theorem readFields_lenient_notes_leftOut (entries : Entries) :
    ∃ s, readFields .lenient [] entries = .ok (s, leftOut entries) := by
  obtain ⟨s, noted, h⟩ := exists_readFields_lenient [] entries
  have hNone : ([] : Entries).all (fun (name, raw) => keeps name raw) = true := rfl
  obtain rfl := noted_readFields hNone entries h
  exact ⟨s, h⟩

end Definition

end Intake
