import Intake.Proofs.Fallible
import Intake.Schema.Definition

/-! # Readings of definitions

What a successful reading of each part of a definition consists of. Most parts are read alike in
both readings; where a strict reading is stricter it has a statement of its own.
-/

namespace Intake.Definition

variable {reading : Reading} {path : List DefinitionStep} {noted : List Skipped}

theorem readEntry_eq_ok_iff [Pattern.Engine] {name : String} {raw : Value} {f : Field} :
    readEntry reading path name raw = .ok (f, noted) ↔
      checkName name = .ok () ∧
        ∃ entries, raw = .object entries ∧ readField reading path entries = .ok (f, noted) := by
  unfold readEntry
  cases hName : checkName name with
  | error e => simp [blame]
  | ok => cases raw <;> simp [blame]

theorem readField_eq_ok_iff [Pattern.Engine] {entries : Entries} {f : Field} :
    readField reading path entries = .ok (f, noted) ↔
      ∃ kind required shape, readKind entries = .ok kind ∧
        checkKeys reading kind entries = .ok () ∧ readRequired reading entries = .ok required ∧
        readShape reading path kind entries = .ok (shape, noted) ∧ f = .mk required shape := by
  rw [readField]
  cases hKind : readKind entries with
  | error e => simp [blame]
  | ok kind =>
    cases hKeys : checkKeys reading kind entries with
    | error e => simp [blame, hKeys]
    | ok =>
      cases hRequired : readRequired reading entries with
      | error e => simp [blame, hKeys]
      | ok required =>
        cases hShape : readShape reading path kind entries with
        | error e => simp [blame, hKeys, hShape]
        | ok r =>
          obtain ⟨shape, n⟩ := r
          simp only [blame, hKeys, Except.ok.injEq, Prod.mk.injEq, exists_and_left, exists_eq_left',
            hShape, true_and]
          constructor
          · rintro ⟨rfl, rfl⟩
            exact ⟨shape, ⟨rfl, rfl⟩, rfl⟩
          · rintro ⟨_, ⟨rfl, rfl⟩, rfl⟩
            exact ⟨rfl, rfl⟩

theorem checkKeys_strict_eq_ok_iff {kind : Kind} {entries : Entries} :
    checkKeys .strict kind entries = .ok () ↔ ∀ m ∈ entries, kind.allowsKey m.1 = true := by
  rw [checkKeys]
  split
  · next key v hFound =>
    refine iff_of_false nofun fun hAll => ?_
    have hRefused := List.find?_some hFound
    simp [hAll _ (List.mem_of_find?_eq_some hFound)] at hRefused
  · next hNone => simpa using List.find?_eq_none.mp hNone

variable [Pattern.Engine]

theorem readItems_eq_ok_iff {raw : Value} {items : Items} :
    readItems reading path raw = .ok (items, noted) ↔
      (∃ name kind, raw = .text name ∧ Kind.ofName? name = some kind ∧ items = .kind kind ∧
        noted = []) ∨
      (∃ entries f, raw = .object entries ∧ describesElement entries = true ∧
        readField reading (path ++ [.items]) entries = .ok (f, noted) ∧ items = .field f) ∨
      ∃ entries s, raw = .object entries ∧ describesElement entries = false ∧
        readFields reading (path ++ [.items]) entries = .ok (s, noted) ∧ items = .schema s := by
  unfold readItems
  constructor
  · intro h
    split at h
    · next name =>
      split at h
      · next kind hName =>
        cases h
        exact .inl ⟨name, kind, rfl, hName, rfl, rfl⟩
      · cases h
    · next entries =>
      split at h
      · next hDescribes =>
        obtain ⟨⟨f, n⟩, hRead, hEq⟩ := map_eq_ok_iff.mp h
        cases hEq
        exact .inr (.inl ⟨entries, f, rfl, hDescribes, hRead, rfl⟩)
      · next hDescribes =>
        obtain ⟨⟨s, n⟩, hRead, hEq⟩ := map_eq_ok_iff.mp h
        cases hEq
        exact .inr (.inr ⟨entries, s, rfl, Bool.eq_false_iff.mpr hDescribes, hRead, rfl⟩)
    · cases h
  · rintro (⟨name, kind, rfl, hName, rfl, rfl⟩ | ⟨entries, f, rfl, hDescribes, hRead, rfl⟩ |
      ⟨entries, s, rfl, hDescribes, hRead, rfl⟩)
    · simp only [hName]
    · simp only [hDescribes, if_true, hRead]
      rfl
    · simp only [hDescribes, Bool.false_eq_true, if_false, hRead]
      rfl

theorem readShape_object_eq_ok_iff {entries : Entries} {shape : Shape} :
    readShape reading path .object entries = .ok (shape, noted) ↔
      ( nestedEntry? entries = none ∧ shape = .object none ∧ noted = []) ∨
      ∃ key inner s, nestedEntry? entries = some (key, .object inner) ∧
        readFields reading path inner = .ok (s, noted) ∧ shape = .object (some s) := by
  rw [readShape]
  constructor
  · intro h
    split at h
    · next hNested =>
      cases h
      exact .inl ⟨hNested, rfl, rfl⟩
    · next key inner hNested =>
      obtain ⟨⟨s, n⟩, hRead, hEq⟩ := map_eq_ok_iff.mp h
      cases hEq
      exact .inr ⟨key, inner, s, hNested, hRead, rfl⟩
    · cases h
  · rintro (⟨hNested, rfl, rfl⟩ | ⟨key, inner, s, hNested, hRead, rfl⟩)
    · split <;> simp_all
    · split <;> simp_all [Except.map]

theorem readShape_array_eq_ok_iff {entries : Entries} {shape : Shape} :
    readShape reading path .array entries = .ok (shape, noted) ↔
      (entries.lookup "items" = none ∧ reading = .lenient ∧ shape = .array none ∧ noted = []) ∨
      ∃ raw items, entries.lookup "items" = some raw ∧
        readItems reading path raw = .ok (items, noted) ∧ shape = .array (some items) := by
  unfold readShape
  dsimp only
  constructor
  · intro h
    split at h
    · next hItems =>
      cases reading with
      | strict => cases h
      | lenient =>
        cases h
        exact .inl ⟨hItems, rfl, rfl, rfl⟩
    · next raw hItems =>
      obtain ⟨⟨items, n⟩, hRead, hEq⟩ := map_eq_ok_iff.mp h
      cases hEq
      exact .inr ⟨raw, items, hItems, hRead, rfl⟩
  · rintro (⟨hItems, rfl, rfl, rfl⟩ | ⟨raw, items, hItems, hRead, rfl⟩)
    · split <;> simp_all
    · split <;> simp_all [Except.map]

/-- Only objects and arrays are read by what their definition holds inside. -/
theorem readShape_eq_of_flat {kind : Kind} {entries : Entries} (object : kind ≠ .object)
    (array : kind ≠ .array) (reading' : Reading) :
    readShape reading path kind entries = readShape reading' path kind entries := by
  cases kind <;> first | contradiction | (rw [readShape, readShape])

theorem noted_of_flat {kind : Kind} {entries : Entries} {shape : Shape} (object : kind ≠ .object)
    (array : kind ≠ .array) (h : readShape reading path kind entries = .ok (shape, noted)) :
    noted = [] := by
  cases kind <;> first | contradiction | rw [readShape] at h
  case string | number | double =>
    obtain ⟨_, -, hEq⟩ := map_eq_ok_iff.mp h
    cases hEq
    rfl
  all_goals
    cases h
    rfl

theorem readFields_cons_strict_eq_ok_iff {name : String} {raw : Value} {rest : Entries}
    {s : Schema} : readFields .strict path ((name, raw) :: rest) = .ok (s, noted) ↔
      ∃ f n others n', readEntry .strict (path ++ [.field name]) name raw = .ok (f, n) ∧
        readFields .strict path rest = .ok (others, n') ∧
        s = .mk ((name, f) :: others.fields) ∧ noted = n ++ n' := by
  rw [readFields]
  cases readEntry .strict (path ++ [.field name]) name raw with
  | error e => simp
  | ok field =>
    cases readFields .strict path rest with
    | error e => simp
    | ok others =>
      obtain ⟨f, n⟩ := field
      obtain ⟨others, n'⟩ := others
      simp only [Except.ok.injEq, Prod.mk.injEq]
      constructor
      · rintro ⟨rfl, rfl⟩
        exact ⟨f, n, others, n', ⟨rfl, rfl⟩, ⟨rfl, rfl⟩, rfl, rfl⟩
      · rintro ⟨_, _, _, _, ⟨rfl, rfl⟩, ⟨rfl, rfl⟩, rfl, rfl⟩
        exact ⟨rfl, rfl⟩

theorem readFields_strict_cons {path : List DefinitionStep} {name : String} {inner rest : Entries}
    {f : Field} {s : Schema} (named : checkName name = .ok ())
    (hField : readField .strict (path ++ [.field name]) inner = .ok (f, []))
    (hRest : readFields .strict path rest = .ok (s, [])) :
    readFields .strict path ((name, .object inner) :: rest) =
      .ok (.mk ((name, f) :: s.fields), []) :=
  readFields_cons_strict_eq_ok_iff.mpr
    ⟨f, [], s, [], readEntry_eq_ok_iff.mpr ⟨named, inner, rfl, hField⟩, hRest, rfl, rfl⟩

theorem readField_strict_array {path : List DefinitionStep} {raw : Value} {items : Items}
    (h : readItems .strict path raw = .ok (items, [])) :
    readField .strict path [("type", .text "array"), ("items", raw)] =
      .ok (.mk false (.array (some items)), []) :=
  readField_eq_ok_iff.mpr ⟨.array, false, .array (some items), rfl, rfl, rfl,
    readShape_array_eq_ok_iff.mpr (.inr ⟨raw, items, rfl, h, rfl⟩), rfl⟩

end Intake.Definition

namespace Intake.Schema

theorem ofDefinition_eq_ok_iff [Pattern.Engine] {entries : Definition.Entries} {s : Schema} :
    ofDefinition (.object entries) = .ok s ↔
      ∃ noted, Definition.readFields .strict [] entries = .ok (s, noted) := by
  rw [ofDefinition]
  cases Definition.readFields .strict [] entries with
  | error e => simp
  | ok r => simp [Prod.ext_iff]

end Intake.Schema
