import Intake.Proofs.Satisfiable

/-! # The form of schemas that were read

Every part of a schema stands for the part of its definition at the same path. What holds of one
such pair, its names, its kind and its limits, is settled where it is read; that parts lie inside
each other as their definitions do is one step into a field or into items, and a path is a run of
such steps. So the form is kept at every depth and in both readings, whatever was left out.
-/

namespace Intake

namespace Definition

/-- A part of a definition, by what it speaks of: the fields of an object, one value in full, or one
value by the name of its kind alone. -/
inductive Part where
  | fields (entries : Entries)
  | value (entries : Entries)
  | kindName (name : String)

namespace Part

/-- The whole of a definition. What is no mapping declares nothing. -/
def whole : Value → Part
  | .object entries => fields entries
  | _ => fields []

/-- The entries that declare fields. -/
def entries? : Part → Option Entries
  | fields entries => some entries
  | value entries => ( nestedEntry? entries).bind fun found => found.2.object?
  | kindName _ => none

def ofItems? : Value → Option Part
  | .text name => some (kindName name)
  | .object entries => some (if describesElement entries then value entries else fields entries)
  | _ => none

def items? : Part → Option Part
  | value entries => (entries.lookup "items").bind ofItems?
  | _ => none

def field? (part : Part) (name : String) : Option Part :=
  ((part.entries?.bind (·.lookup name)).bind Value.object?).map value

/-- What a definition has at a path. -/
def at? (part : Part) : List DefinitionStep → Option Part
  | [] => some part
  | .field name :: path => (part.field? name).bind fun inner => inner.at? path
  | .items :: path => part.items?.bind fun inner => inner.at? path

end Part

end Definition

open Definition

namespace Demand

def field? (d : Demand) (name : String) : Option Demand :=
  (d.schema?.bind (·.get? name)).map fun f => shape f.shape

/-- What a schema asks for at a path. -/
def at? (d : Demand) : List DefinitionStep → Option Demand
  | [] => some d
  | .field name :: path => (d.field? name).bind fun e => e.at? path
  | .items :: path => d.items?.bind fun items => (ofItems items).at? path

end Demand

/-- One level of fields, beside the entries that it was read from. -/
structure Schema.Proper (entries : Entries) (s : Schema) : Prop where
  distinct : (s.fields.map Prod.fst).Nodup
  named : ∀ name f, (name, f) ∈ s.fields → IsFieldName name
  inOrder : (s.fields.map Prod.fst).Sublist (entries.map Prod.fst)

/-- The descriptor of one value, beside the entries that it was read from. -/
structure Shape.Proper (reading : Reading) (entries : Entries) (shape : Shape) : Prop where
  kind : kind? entries = some shape.kind
  nested : shape.kind ≠ .object → shape.nested? = none
  items : shape.kind ≠ .array → shape.items? = none
  texts : shape.kind ≠ .string → shape.textLimits = {}
  numbers : shape.kind ≠ .number → shape.kind ≠ .double → shape.bounds = {}
  lengths : shape.textLimits.Ordered
  bounds : shape.bounds.Ordered
  elements : reading = .strict → shape.kind = .array → ∃ items, shape.items? = some items

/-- What is asked for at some place, beside the part of the definition that asks for it. -/
structure Demand.Proper (reading : Reading) (part : Part) (d : Demand) : Prop where
  level : ∀ s, d.schema? = some s → ∃ entries, part.entries? = some entries ∧ s.Proper entries
  node : ∀ shape, d = .shape shape → ∃ entries, part = .value entries ∧
    shape.Proper reading entries

namespace Definition

variable {reading : Reading} {path : List DefinitionStep} {noted : List Skipped}
  {entries : Entries} {s : Schema}

section Fields

variable [Pattern.Engine]

/-- The first entry is read or left out, and the others are read by themselves. -/
theorem readFields_cons {name : String} {raw : Value} {rest : Entries}
    (h : readFields reading path ((name, raw) :: rest) = .ok (s, noted)) :
    ∃ others notedRest, readFields reading path rest = .ok (others, notedRest) ∧
      (s = others ∨ ∃ f notedEntry,
        readEntry reading (path ++ [.field name]) name raw = .ok (f, notedEntry) ∧
        s = .mk ((name, f) :: others.fields)) := by
  rw [readFields] at h
  cases hRest : readFields reading path rest with
  | error e =>
    rw [hRest] at h
    cases hEntry : readEntry reading (path ++ [.field name]) name raw <;> rw [hEntry] at h
    · cases reading <;> cases h
    · cases h
  | ok read =>
    obtain ⟨others, notedRest⟩ := read
    rw [hRest] at h
    cases hEntry : readEntry reading (path ++ [.field name]) name raw with
    | ok read =>
      obtain ⟨f, notedEntry⟩ := read
      rw [hEntry] at h
      cases h
      exact ⟨others, notedRest, rfl, .inr ⟨f, notedEntry, rfl, rfl⟩⟩
    | error e =>
      rw [hEntry] at h
      cases reading <;> cases h
      exact ⟨_, _, rfl, .inl rfl⟩

theorem names_of_readFields (h : readFields reading path entries = .ok (s, noted)) :
    (s.fields.map Prod.fst).Sublist (entries.map Prod.fst) := by
  induction entries generalizing s noted with
  | nil =>
    rw [readFields] at h
    cases h
    exact List.Sublist.refl _
  | cons m rest ih =>
    obtain ⟨name, raw⟩ := m
    obtain ⟨others, notedRest, hRest, rfl | ⟨f, notedEntry, -, rfl⟩⟩ := readFields_cons h
    · exact (ih hRest).cons name
    · exact (ih hRest).cons_cons name

/-- A declared field is what its own entry is read as. -/
theorem entry_of_readFields (h : readFields reading path entries = .ok (s, noted))
    {name : String} {f : Field} (declared : (name, f) ∈ s.fields) :
    ∃ raw notedEntry, (name, raw) ∈ entries ∧
      readEntry reading (path ++ [.field name]) name raw = .ok (f, notedEntry) := by
  induction entries generalizing s noted with
  | nil =>
    rw [readFields] at h
    cases h
    cases declared
  | cons m rest ih =>
    obtain ⟨key, raw⟩ := m
    have hLater {others : Schema} {notedRest : List Skipped}
        (hRest : readFields reading path rest = .ok (others, notedRest))
        (hMem : (name, f) ∈ others.fields) : ∃ raw' notedEntry, (name, raw') ∈ (key, raw) :: rest ∧
          readEntry reading (path ++ [.field name]) name raw' = .ok (f, notedEntry) := by
      obtain ⟨raw', notedEntry, hRaw, hEntry⟩ := ih hRest hMem
      exact ⟨raw', notedEntry, List.mem_cons_of_mem _ hRaw, hEntry⟩
    obtain ⟨others, notedRest, hRest, rfl | ⟨g, notedEntry, hEntry, rfl⟩⟩ := readFields_cons h
    · exact hLater hRest declared
    · rcases List.mem_cons.mp declared with hSame | hMem
      · cases hSame
        exact ⟨raw, notedEntry, List.mem_cons_self, hEntry⟩
      · exact hLater hRest hMem

theorem proper_of_readFields (distinct : (Value.object entries).KeysDistinct)
    (h : readFields reading path entries = .ok (s, noted)) : s.Proper entries := by
  have hOrder := names_of_readFields h
  refine ⟨hOrder.nodup (distinct _ .here), fun name f declared => ?_, hOrder⟩
  obtain ⟨raw, notedEntry, -, hEntry⟩ := entry_of_readFields h declared
  exact isFieldName_of_checkName (readEntry_eq_ok_iff.mp hEntry).1

end Fields

theorem ordered_noLimits : ({} : TextLimits).Ordered := by
  intro least most hLeast
  cases hLeast

theorem ordered_noBounds : ({} : Bounds).Ordered where
  finite b h := by rcases h with h | h <;> cases h
  ordered least most hLeast := by cases hLeast

/-- What a shape has is bound to its kind, so that only the limits are to be shown in order. -/
theorem proper_of_ordered {shape : Shape} (named : kind? entries = some shape.kind)
    (lengths : shape.textLimits.Ordered) (bounds : shape.bounds.Ordered)
    (elements : reading = .strict → shape.kind = .array → ∃ items, shape.items? = some items) :
    shape.Proper reading entries where
  kind := named
  nested h := by
    cases shape with
    | object => exact absurd rfl h
    | _ => rfl
  items h := by
    cases shape with
    | array => exact absurd rfl h
    | _ => rfl
  texts h := by
    cases shape with
    | text => exact absurd rfl h
    | _ => rfl
  numbers h h' := by
    cases shape with
    | number => exact absurd rfl h
    | double => exact absurd rfl h'
    | _ => rfl
  lengths := lengths
  bounds := bounds
  elements := elements

section Walk

variable [Pattern.Engine]

theorem proper_of_readShape {kind : Kind} {shape : Shape} (named : kind? entries = some kind)
    (h : readShape reading path kind entries = .ok (shape, noted)) :
    shape.Proper reading entries := by
  cases kind with
  | string =>
    rw [readShape] at h
    obtain ⟨limits, hLimits, hEq⟩ := map_blame_eq_ok_iff.mp h
    cases hEq
    exact proper_of_ordered named (ordered_of_readTextLimits hLimits) ordered_noBounds
      (by rintro - ⟨⟩)
  | number | double =>
    rw [readShape] at h
    obtain ⟨bounds, hBounds, hEq⟩ := map_blame_eq_ok_iff.mp h
    cases hEq
    exact proper_of_ordered named ordered_noLimits (ordered_of_readBounds hBounds)
      (by rintro - ⟨⟩)
  | object =>
    rcases readShape_object_eq_ok_iff.mp h with ⟨-, rfl, -⟩ | ⟨key, inner, s, -, -, rfl⟩ <;>
      exact proper_of_ordered named ordered_noLimits ordered_noBounds (by rintro - ⟨⟩)
  | array =>
    rcases readShape_array_eq_ok_iff.mp h with ⟨-, rfl, rfl, -⟩ | ⟨raw, items, -, -, rfl⟩
    · exact proper_of_ordered named ordered_noLimits ordered_noBounds (by rintro ⟨⟩)
    · exact proper_of_ordered named ordered_noLimits ordered_noBounds fun _ _ => ⟨items, rfl⟩
  | _ =>
    all_goals
      rw [readShape] at h
      cases h
      exact proper_of_ordered named ordered_noLimits ordered_noBounds (by rintro - ⟨⟩)

/-- A part of a definition has been read as what is asked for. -/
inductive ReadAs (reading : Reading) : Part → Demand → Prop where
  | fields {entries : Entries} {path : List DefinitionStep} {noted : List Skipped} {s : Schema}
    (distinct : (Value.object entries).KeysDistinct)
    (h : readFields reading path entries = .ok (s, noted)) :
    ReadAs reading (.fields entries) (.schema s)
  | value {entries : Entries} {path : List DefinitionStep} {noted : List Skipped} {kind : Kind}
    {shape : Shape} (distinct : (Value.object entries).KeysDistinct)
    (named : kind? entries = some kind)
    (h : readShape reading path kind entries = .ok (shape, noted)) :
    ReadAs reading (.value entries) (.shape shape)
  | kindName {name : String} {kind : Kind} (known : Kind.ofName? name = some kind) :
    ReadAs reading (.kindName name) (.kind kind)

theorem readAs_of_readField {f : Field} (distinct : (Value.object entries).KeysDistinct)
    (h : readField reading path entries = .ok (f, noted)) :
    ReadAs reading (.value entries) (.shape f.shape) := by
  obtain ⟨kind, required, shape, hKind, -, -, hShape, rfl⟩ := readField_eq_ok_iff.mp h
  exact .value distinct (readKind_eq_ok_iff.mp hKind) hShape

end Walk

namespace ReadAs

variable [Pattern.Engine] {part : Part} {d e : Demand}

/-- The fields that something asks for were read from the entries of its part. -/
theorem level (h : ReadAs reading part d) (follows : d.schema? = some s) :
    ∃ entries path noted, part.entries? = some entries ∧ (Value.object entries).KeysDistinct ∧
      readFields reading path entries = .ok (s, noted) := by
  cases h with
  | fields distinct h =>
    cases follows
    exact ⟨_, _, _, rfl, distinct, h⟩
  | kindName => cases follows
  | @value entries path noted kind shape distinct named h =>
    -- Only an object has fields, and they come from the entry that the definition nests.
    cases shape with
    | object nested =>
      cases (proper_of_readShape named h).kind.symm.trans named
      rcases readShape_object_eq_ok_iff.mp h with ⟨-, hNone, -⟩ |
        ⟨key, inner, _, hNested, hRead, hSome⟩
      · cases hNone
        cases follows
      · cases hSome
        cases follows
        have hEntries : (Part.value entries).entries? = some inner := by
          rw [Part.entries?, hNested]
          rfl
        exact ⟨inner, path, noted, hEntries, distinct.nested hNested, hRead⟩
    | _ => cases follows

theorem field (h : ReadAs reading part d) {name : String} (there : d.field? name = some e) :
    ∃ inner, part.field? name = some inner ∧ ReadAs reading inner e := by
  obtain ⟨f, hField, rfl⟩ := Option.map_eq_some_iff.mp there
  obtain ⟨s, follows, hDeclared⟩ := Option.bind_eq_some_iff.mp hField
  obtain ⟨entries, path, noted, hEntries, distinct, hRead⟩ := h.level follows
  obtain ⟨raw, notedEntry, hMem, hEntry⟩ :=
    entry_of_readFields hRead (mem_of_lookup_eq_some hDeclared)
  obtain ⟨-, inner, rfl, hInner⟩ := readEntry_eq_ok_iff.mp hEntry
  have hRaw : entries.lookup name = some (.object inner) :=
    lookup_eq_some_of_mem (distinct _ .here) hMem
  refine ⟨.value inner, ?_, readAs_of_readField (distinct.member hMem) hInner⟩
  rw [Part.field?, hEntries, Option.bind_some, hRaw]
  rfl

theorem items (h : ReadAs reading part d) {items : Items} (follows : d.items? = some items) :
    ∃ inner, part.items? = some inner ∧ ReadAs reading inner (.ofItems items) := by
  cases h with
  | fields | kindName => cases follows
  | @value entries path noted kind shape distinct named h =>
    cases shape with
    | array =>
      cases (proper_of_readShape named h).kind.symm.trans named
      rcases readShape_array_eq_ok_iff.mp h with ⟨-, -, hNone, -⟩ | ⟨raw, _, hRaw, hRead, hSome⟩
      · cases hNone
        cases follows
      · cases hSome
        cases follows
        rw [Part.items?, hRaw, Option.bind_some]
        rcases readItems_eq_ok_iff.mp hRead with ⟨name, kind, rfl, hKnown, rfl, -⟩ |
          ⟨entries, f, rfl, hDescribes, hField, rfl⟩ | ⟨entries, s, rfl, hDescribes, hFields, rfl⟩
        · exact ⟨.kindName name, rfl, .kindName hKnown⟩
        · refine ⟨.value entries, ?_, readAs_of_readField (distinct.lookup hRaw) hField⟩
          rw [Part.ofItems?, if_pos hDescribes]
        · refine ⟨.fields entries, ?_, .fields (distinct.lookup hRaw) hFields⟩
          rw [Part.ofItems?, hDescribes, if_neg Bool.false_ne_true]
    | _ => cases follows

/-- Along a path through a schema leads a path through its definition. -/
theorem at? (h : ReadAs reading part d) {path : List DefinitionStep} (there : d.at? path = some e) :
    ∃ inner, part.at? path = some inner ∧ ReadAs reading inner e := by
  induction path generalizing part d with
  | nil =>
    cases there
    exact ⟨part, rfl, h⟩
  | cons step rest ih =>
    cases step with
    | field name =>
      obtain ⟨d', hStep, hRest⟩ := Option.bind_eq_some_iff.mp there
      obtain ⟨part', hPart, hRead⟩ := h.field hStep
      obtain ⟨inner, hInner, hEnd⟩ := ih hRead hRest
      exact ⟨inner, Option.bind_eq_some_iff.mpr ⟨part', hPart, hInner⟩, hEnd⟩
    | items =>
      obtain ⟨items, hStep, hRest⟩ := Option.bind_eq_some_iff.mp there
      obtain ⟨part', hPart, hRead⟩ := h.items hStep
      obtain ⟨inner, hInner, hEnd⟩ := ih hRead hRest
      exact ⟨inner, Option.bind_eq_some_iff.mpr ⟨part', hPart, hInner⟩, hEnd⟩

theorem proper (h : ReadAs reading part d) : d.Proper reading part := by
  constructor
  · intro s follows
    obtain ⟨entries, path, noted, hEntries, distinct, hRead⟩ := h.level follows
    exact ⟨entries, hEntries, proper_of_readFields distinct hRead⟩
  · rintro shape rfl
    cases h with
    | value distinct named h => exact ⟨_, rfl, proper_of_readShape named h⟩

end ReadAs

end Definition

namespace Schema

section Readings

variable [Pattern.Engine]

theorem readAs_ofDefinition {definition : Value} {s : Schema} (distinct : definition.KeysDistinct)
    (h : ofDefinition definition = .ok s) : ReadAs .strict (.whole definition) (.schema s) := by
  cases definition with
  | object entries =>
    obtain ⟨noted, hRead⟩ := ofDefinition_eq_ok_iff.mp h
    exact .fields distinct hRead
  | _ => cases h

theorem readAs_ofStored {definition : Value} (distinct : definition.KeysDistinct) :
    ReadAs .lenient (.whole definition) (.schema (ofStored definition).1) := by
  cases definition with
  | object entries =>
    obtain ⟨s, noted, hRead⟩ := exists_readFields_lenient [] entries
    rw [ofStored, hRead]
    exact .fields distinct hRead
  | _ =>
    all_goals
      have hNothing : (Value.object []).KeysDistinct := by simp [Value.keysDistinct_object_iff]
      have hRead : readFields .lenient [] [] = .ok (empty, []) := by rw [readFields]
      exact .fields hNothing hRead

/-- Whatever a definition is, and in whichever reading: at every path of the schema, the fields have
different names that may be field names, in the order of their entries, and a descriptor has nothing
that its kind does not know, limits that are in order and, after a strict reading, a rule for the
items of every array. -/
theorem readings_proper {definition : Value} (distinct : definition.KeysDistinct) :
    (∀ s, ofDefinition definition = .ok s → ∀ path d, (Demand.schema s).at? path = some d →
      ∃ part, (Part.whole definition).at? path = some part ∧ d.Proper .strict part) ∧
    ∀ path d, (Demand.schema (ofStored definition).1).at? path = some d →
      ∃ part, (Part.whole definition).at? path = some part ∧ d.Proper .lenient part := by
  constructor
  · intro s accepted path d there
    obtain ⟨part, hPart, hRead⟩ := (readAs_ofDefinition distinct accepted).at? there
    exact ⟨part, hPart, hRead.proper⟩
  · intro path d there
    obtain ⟨part, hPart, hRead⟩ := (readAs_ofStored distinct).at? there
    exact ⟨part, hPart, hRead.proper⟩

end Readings

/-- The limits inside the items of an array, and the fields beside one that is left out there. -/
theorem readings_proper_homes :
    let town : Entries := [("type", .text "string"), ("minLength", .int 1), ("maxLength", .int 9)]
    let home : Entries := [("since", .object [("type", .text "date")]), ("town", .object town)]
    let homes (items : Entries) : Value := .object [("homes",
      .object [("type", .text "array"), ("items", .object items)])]
    let stored : Entries := ("a.b", .null) :: home
    let shape : Shape := .text ⟨none, some 1, some 9⟩
    let level : Schema := .mk [("since", .mk false .date), ("town", .mk false shape)]
    let schema : Schema := .mk [("homes", .mk false (.array (some (.schema level))))]
    (homes home).KeysDistinct ∧ (homes stored).KeysDistinct ∧
      ofDefinition (homes home) = .ok schema ∧
      (Part.whole (homes home)).at? [.field "homes", .items, .field "town"] =
        some (.value town) ∧
      (Demand.shape shape).Proper .strict (.value town) ∧
      (ofStored (homes stored)).1 = schema ∧
      (Part.whole (homes stored)).at? [.field "homes", .items] = some (.fields stored) ∧
      (Demand.schema level).Proper .lenient (.fields stored) := by
  intro town home homes stored shape level schema
  have hText (s : String) : (Value.text s).KeysDistinct := nofun
  have hInt (n : Int64) : (Value.int n).KeysDistinct := nofun
  have hNull : Value.null.KeysDistinct := nofun
  have hDistinct : (homes home).KeysDistinct := by
    simp [homes, home, town, Value.keysDistinct_object_iff, hText, hInt]
  have hStoredDistinct : (homes stored).KeysDistinct := by
    simp [homes, stored, home, town, Value.keysDistinct_object_iff, hText, hInt, hNull]
  have hAccepted : ofDefinition (homes home) = .ok schema := by decide +kernel
  have hStored : (ofStored (homes stored)).1 = schema := by decide +kernel
  have hTown : (Part.whole (homes home)).at? [.field "homes", .items, .field "town"] =
      some (.value town) := rfl
  have hLevel : (Part.whole (homes stored)).at? [.field "homes", .items] =
      some (.fields stored) := rfl
  obtain ⟨part, hPart, hProper⟩ := (readings_proper hDistinct).1 schema hAccepted
    [.field "homes", .items, .field "town"] (.shape shape) rfl
  obtain ⟨part', hPart', hProper'⟩ := (readings_proper hStoredDistinct).2
    [.field "homes", .items] (.schema level) (by rw [hStored]; rfl)
  cases hTown.symm.trans hPart
  cases hLevel.symm.trans hPart'
  exact ⟨hDistinct, hStoredDistinct, hAccepted, hTown, hProper, hStored, hLevel, hProper'⟩

end Schema

end Intake
