import Intake.Proofs.LeftOut

/-! # Notes as they are made

A lenient reading that keeps what it has noted even where what is around fails. No reading ever
fails after a note: entries at one level fail by themselves, and everything that can refuse a field
comes before the entries inside it.
-/

namespace Intake

namespace Definition

/-- What is read, or why it is not, with the notes made on the way. -/
abbrev Announced (α : Type) := Except Malformed α × List Skipped

/-- A reading that makes no note before it fails. -/
def Announced.ofOutcome {α : Type} : Outcome α → Announced α
  | .ok (a, noted) => (.ok a, noted)
  | .error e => (.error e, [])

def Announced.map {α β : Type} (f : α → β) (a : Announced α) : Announced β := (a.1.map f, a.2)

theorem Announced.ofOutcome_map {α β : Type} (f : α → β) (x : Outcome α) :
    ofOutcome (x.map fun (a, noted) => (f a, noted)) = (ofOutcome x).map f := by
  cases x <;> rfl

variable [Pattern.Engine]

mutual

def announceFields (path : List DefinitionStep) (entries : Entries) : Announced Schema :=
  match entries with
  | [] => (.ok .empty, [])
  | (name, raw) :: rest =>
    match announceEntry (path ++ [.field name]) name raw, announceFields path rest with
    | (.ok field, noted), (others, noted') =>
      (others.map fun others => .mk ((name, field) :: others.fields), noted ++ noted')
    | (.error e, noted), (others, noted') => (others, noted ++ ⟨path ++ [.field name], e⟩ :: noted')
termination_by 3 * sizeOf entries

def announceEntry (path : List DefinitionStep) (name : String) (raw : Value) : Announced Field :=
  match blame path (checkName name), raw with
  | .error e, _ => (.error e, [])
  | .ok (), .object entries => announceField path entries
  | .ok (), _ => (.error ⟨path, .notMapping⟩, [])
termination_by 3 * sizeOf raw

def announceField (path : List DefinitionStep) (entries : Entries) : Announced Field :=
  match blame path (readKind entries), blame path (readRequired .lenient entries) with
  | .error e, _ => (.error e, [])
  | .ok _, .error e => (.error e, [])
  | .ok kind, .ok required => (announceShape path kind entries).map (.mk required)
termination_by 3 * sizeOf entries + 2

def announceShape (path : List DefinitionStep) (kind : Kind) (entries : Entries) :
    Announced Shape :=
  match kind with
  | .object =>
    match h : nestedEntry? entries with
    | none => (.ok (.object none), [])
    | some (_, .object inner) =>
      have : 1 + sizeOf inner < sizeOf entries := by simpa using nestedEntry?_sizeOf h
      (announceFields path inner).map fun schema => .object (some schema)
    | some (key, _) => (.error ⟨path, .nestedNotMapping key⟩, [])
  | .array =>
    match h : entries.lookup "items" with
    | none => (.ok (.array none), [])
    | some raw =>
      have := Value.lookup_sizeOf h
      (announceItems path raw).map fun items => .array (some items)
  | kind => .ofOutcome (readShape .lenient path kind entries)
termination_by 3 * sizeOf entries + 1

def announceItems (path : List DefinitionStep) (raw : Value) : Announced Items :=
  match raw with
  | .text name =>
    match Kind.ofName? name with
    | some kind => (.ok (.kind kind), [])
    | none => (.error ⟨path ++ [.items], .typeUnknown name⟩, [])
  | .object entries =>
    if describesElement entries then (announceField (path ++ [.items]) entries).map .field
    else (announceFields (path ++ [.items]) entries).map .schema
  | _ => (.error ⟨path, .itemsUnreadable⟩, [])
termination_by 3 * sizeOf raw

end

mutual

theorem announceFields_eq (path : List DefinitionStep) : (entries : Entries) →
    announceFields path entries = .ofOutcome (readFields .lenient path entries)
  | [] => by
    rw [announceFields, readFields]
    rfl
  | (name, raw) :: rest => by
    obtain ⟨others, notedRest, hRest⟩ := exists_readFields_lenient path rest
    rw [announceFields, readFields, announceEntry_eq _ name raw, announceFields_eq path rest, hRest]
    cases readEntry .lenient (path ++ [.field name]) name raw <;> rfl
termination_by entries => 3 * sizeOf entries

theorem announceEntry_eq (path : List DefinitionStep) (name : String) (raw : Value) :
    announceEntry path name raw = .ofOutcome (readEntry .lenient path name raw) := by
  rw [announceEntry.eq_def, readEntry.eq_def]
  cases checkName name with
  | error e => rfl
  | ok =>
    cases raw with
    | object entries => exact announceField_eq path entries
    | _ => rfl
termination_by 3 * sizeOf raw

theorem announceField_eq (path : List DefinitionStep) (entries : Entries) :
    announceField path entries = .ofOutcome (readField .lenient path entries) := by
  rw [announceField, readField]
  cases readKind entries with
  | error e => rfl
  | ok kind =>
    cases readRequired .lenient entries with
    | error e => rfl
    | ok required =>
      dsimp only [blame, checkKeys]
      rw [announceShape_eq path kind entries]
      cases readShape .lenient path kind entries <;> rfl
termination_by 3 * sizeOf entries + 2

theorem announceShape_eq (path : List DefinitionStep) (kind : Kind) (entries : Entries) :
    announceShape path kind entries = .ofOutcome (readShape .lenient path kind entries) := by
  cases kind with
  | object =>
    rw [readShape_object, announceShape]
    split
    · next hNested =>
      rw [hNested]
      rfl
    · next key inner hNested =>
      have hSize : 1 + sizeOf inner < sizeOf entries := by simpa using nestedEntry?_sizeOf hNested
      dsimp only
      rw [hNested, announceFields_eq path inner]
      exact (Announced.ofOutcome_map _ _).symm
    · next hNested => simp [hNested, Announced.ofOutcome]
  | array =>
    rw [readShape_array_lenient, announceShape]
    split
    · next hItems =>
      rw [hItems]
      rfl
    · next raw hItems =>
      have hSize : sizeOf raw < sizeOf entries := Value.lookup_sizeOf hItems
      dsimp only
      rw [hItems, announceItems_eq path raw]
      exact (Announced.ofOutcome_map _ _).symm
  | _ => all_goals rw [announceShape] <;> nofun
termination_by 3 * sizeOf entries + 1

theorem announceItems_eq (path : List DefinitionStep) (raw : Value) :
    announceItems path raw = .ofOutcome (readItems .lenient path raw) := by
  rw [announceItems.eq_def, readItems.eq_def]
  cases raw with
  | text name => cases h : Kind.ofName? name <;> simp [h, Announced.ofOutcome]
  | object entries =>
    dsimp only
    split
    · rw [announceField_eq (path ++ [DefinitionStep.items]) entries, Announced.ofOutcome_map]
    · rw [announceFields_eq (path ++ [DefinitionStep.items]) entries, Announced.ofOutcome_map]
  | _ => rfl
termination_by 3 * sizeOf raw

end

end Definition

end Intake
