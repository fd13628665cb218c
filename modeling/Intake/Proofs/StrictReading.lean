import Intake.Proofs.Readings

/-! # Strict and lenient readings

A definition that a strict reading accepts holds nothing that a lenient reading leaves out. Both
read it as the same schema.
-/

namespace Intake

namespace Definition

theorem readRequired_lenient {entries : Entries} {required : Bool}
    (h : readRequired .strict entries = .ok required) :
    readRequired .lenient entries = .ok required := by
  unfold readRequired at *
  cases hLookup : entries.lookup "required" with
  | none => simpa [hLookup] using h
  | some v => cases v <;> simp_all

variable [Pattern.Engine]

theorem readFields_lenient_cons {path : List DefinitionStep} {name : String} {raw : Value}
    {rest : Entries} {f : Field} {s : Schema}
    (hEntry : readEntry .lenient (path ++ [.field name]) name raw = .ok (f, []))
    (hRest : readFields .lenient path rest = .ok (s, [])) :
    readFields .lenient path ((name, raw) :: rest) = .ok (.mk ((name, f) :: s.fields), []) := by
  rw [readFields, hEntry, hRest]
  rfl

-- The reading matters for foreign keys, for what is no boolean, for missing items and for faulty
-- entries, and where a strict reading succeeds there are none of these.
mutual

theorem readFields_lenient {path : List DefinitionStep} {noted : List Skipped} {s : Schema} :
    (entries : Entries) →
    readFields .strict path entries = .ok (s, noted) →
    noted = [] ∧ readFields .lenient path entries = .ok (s, [])
  | [], h => by
    rw [readFields] at h ⊢
    cases h
    exact ⟨rfl, rfl⟩
  | (name, raw) :: rest, h => by
    obtain ⟨f, n, others, n', hEntry, hRest, rfl, rfl⟩ := readFields_cons_strict_eq_ok_iff.mp h
    obtain ⟨rfl, hEntry'⟩ := readEntry_lenient raw hEntry
    obtain ⟨rfl, hRest'⟩ := readFields_lenient rest hRest
    exact ⟨rfl, readFields_lenient_cons hEntry' hRest'⟩
termination_by entries => 3 * sizeOf entries

theorem readEntry_lenient {path : List DefinitionStep} {noted : List Skipped} {name : String}
    {f : Field} : (raw : Value) →
    readEntry .strict path name raw = .ok (f, noted) →
    noted = [] ∧ readEntry .lenient path name raw = .ok (f, [])
  | raw, h => by
    obtain ⟨hName, entries, rfl, hRead⟩ := readEntry_eq_ok_iff.mp h
    obtain ⟨rfl, hLenient⟩ := readField_lenient entries hRead
    exact ⟨rfl, readEntry_eq_ok_iff.mpr ⟨hName, entries, rfl, hLenient⟩⟩
termination_by raw => 3 * sizeOf raw

theorem readField_lenient {path : List DefinitionStep} {noted : List Skipped} {f : Field} :
    (entries : Entries) →
    readField .strict path entries = .ok (f, noted) →
    noted = [] ∧ readField .lenient path entries = .ok (f, [])
  | entries, h => by
    obtain ⟨kind, required, shape, hKind, -, hRequired, hShape, rfl⟩ := readField_eq_ok_iff.mp h
    obtain ⟨rfl, hShape'⟩ := readShape_lenient kind entries hShape
    exact ⟨rfl, readField_eq_ok_iff.mpr
      ⟨kind, required, shape, hKind, rfl, readRequired_lenient hRequired, hShape', rfl⟩⟩
termination_by entries => 3 * sizeOf entries + 2

theorem readShape_lenient {path : List DefinitionStep} {noted : List Skipped} {shape : Shape} :
    (kind : Kind) → (entries : Entries) →
    readShape .strict path kind entries = .ok (shape, noted) →
    noted = [] ∧ readShape .lenient path kind entries = .ok (shape, [])
  | kind, entries, h => by
    cases kind with
    | object =>
      rcases readShape_object_eq_ok_iff.mp h with ⟨hNested, rfl, rfl⟩ |
        ⟨key, inner, s, hNested, hRead, rfl⟩
      · exact ⟨rfl, readShape_object_eq_ok_iff.mpr (.inl ⟨hNested, rfl, rfl⟩)⟩
      · have hSize : 1 + sizeOf inner < sizeOf entries := by
          simpa using nestedEntry?_sizeOf hNested
        obtain ⟨rfl, hLenient⟩ := readFields_lenient inner hRead
        exact ⟨rfl, readShape_object_eq_ok_iff.mpr (.inr ⟨key, inner, s, hNested, hLenient, rfl⟩)⟩
    | array =>
      rcases readShape_array_eq_ok_iff.mp h with ⟨-, hMode, -, -⟩ |
        ⟨raw, items, hItems, hRead, rfl⟩
      · cases hMode
      · have hSize : sizeOf raw < sizeOf entries := Value.lookup_sizeOf hItems
        obtain ⟨rfl, hLenient⟩ := readItems_lenient raw hRead
        exact ⟨rfl, readShape_array_eq_ok_iff.mpr (.inr ⟨raw, items, hItems, hLenient, rfl⟩)⟩
    | _ =>
      all_goals
        obtain rfl := noted_of_flat (by simp) (by simp) h
        rw [readShape_eq_of_flat (by simp) (by simp) .lenient] at h
        exact ⟨rfl, h⟩
termination_by _ entries => 3 * sizeOf entries + 1

theorem readItems_lenient {path : List DefinitionStep} {noted : List Skipped} {items : Items} :
    (raw : Value) →
    readItems .strict path raw = .ok (items, noted) →
    noted = [] ∧ readItems .lenient path raw = .ok (items, [])
  | raw, h => by
    rcases readItems_eq_ok_iff.mp h with ⟨name, kind, rfl, hName, rfl, rfl⟩ |
      ⟨entries, f, rfl, hDescribes, hRead, rfl⟩ | ⟨entries, s, rfl, hDescribes, hRead, rfl⟩
    · exact ⟨rfl, readItems_eq_ok_iff.mpr (.inl ⟨name, kind, rfl, hName, rfl, rfl⟩)⟩
    · obtain ⟨rfl, hLenient⟩ := readField_lenient entries hRead
      exact ⟨rfl, readItems_eq_ok_iff.mpr
        (.inr (.inl ⟨entries, f, rfl, hDescribes, hLenient, rfl⟩))⟩
    · obtain ⟨rfl, hLenient⟩ := readFields_lenient entries hRead
      exact ⟨rfl, readItems_eq_ok_iff.mpr
        (.inr (.inr ⟨entries, s, rfl, hDescribes, hLenient, rfl⟩))⟩
termination_by raw => 3 * sizeOf raw

end

end Definition

/-- What is read strictly is read leniently as the same schema, and nothing is left out. -/
theorem Schema.ofStored_of_ofDefinition [Pattern.Engine] {definition : Value} {s : Schema}
    (h : Schema.ofDefinition definition = .ok s) : Schema.ofStored definition = (s, []) := by
  cases definition with
  | object entries =>
    obtain ⟨noted, hRead⟩ := ofDefinition_eq_ok_iff.mp h
    obtain ⟨-, hLenient⟩ := Definition.readFields_lenient entries hRead
    simp [ofStored, hLenient]
  | _ => cases h

end Intake
