import Intake.Proofs.DeclaredParts
import Mathlib.Logic.Relation

/-! # Spellings of definitions

Elements of one kind may be given by its name or by a definition, the fields of elements by
themselves or under a definition, nested fields under either of two keys, and booleans go by two
names. A definition that is accepted is accepted in any of these spellings, and data is validated
alike against all of them, down to the failure.
-/

namespace Intake

namespace Definition

/-- What is under `schema` goes under `properties`. -/
def underProperties (entries : Entries) : Entries :=
  entries.map fun m => if m.1 = "schema" then ("properties", m.2) else m

mutual

/-- One place in one of the entries is spelt another way. -/
inductive Respelt : Entries → Entries → Prop where
  | here {name : String} {entries entries' rest : Entries} (h : RespeltField entries entries') :
    Respelt ((name, .object entries) :: rest) ((name, .object entries') :: rest)
  | later {m : String × Value} {rest rest' : Entries} (h : Respelt rest rest') :
    Respelt (m :: rest) (m :: rest')

inductive RespeltField : Entries → Entries → Prop where
  | boolean {entries : Entries} (type : entries.lookup "type" = some (.text "bool")) :
    RespeltField entries (put entries "type" (.text "boolean"))
  | properties {entries : Entries} (object : kind? entries = some .object)
    (alone : entries.lookup "properties" = none) : RespeltField entries (underProperties entries)
  | nested {entries inner inner' : Entries} {key : String} (object : kind? entries = some .object)
    (known : key = "properties" ∨ key = "schema") (held : entries.lookup key = some (.object inner))
    (h : Respelt inner inner') : RespeltField entries (put entries key (.object inner'))
  | items {entries : Entries} {raw raw' : Value} (array : kind? entries = some .array)
    (held : entries.lookup "items" = some raw) (h : RespeltItems raw raw') :
    RespeltField entries (put entries "items" raw')

/-- The name of a kind becomes a definition of that kind, which an array would need items for. A
mapping of the fields of elements becomes the definition of an object. -/
inductive RespeltItems : Value → Value → Prop where
  | boolean : RespeltItems (.text "bool") (.text "boolean")
  | kind {name : String} {kind : Kind} (known : Kind.ofName? name = some kind)
    (other : kind ≠ .array) : RespeltItems (.text name) (.object [("type", .text name)])
  | schema {entries : Entries} (noType : describesElement entries = false) :
    RespeltItems (.object entries)
      (.object [("type", .text "object"), ("properties", .object entries)])
  | field {entries entries' : Entries} (type : describesElement entries = true)
    (h : RespeltField entries entries') : RespeltItems (.object entries) (.object entries')
  | fields {entries entries' : Entries} (noType : describesElement entries = false)
    (h : Respelt entries entries') : RespeltItems (.object entries) (.object entries')

end

end Definition

/-- Two shapes are checked alike, whatever the rules and the value. -/
def Shape.Alike (s s' : Shape) : Prop :=
  ∀ rules v, Validation.checkShape rules s v = Validation.checkShape rules s' v

def Items.Alike (items items' : Items) : Prop :=
  ∀ rules v, Validation.checkItem rules items v = Validation.checkItem rules items' v

structure Field.Alike (f f' : Field) : Prop where
  required : f.required = f'.required
  shape : f.shape.Alike f'.shape

/-- The same names in the same order, with fields that are checked alike. -/
def Field.AllAlike (fields fields' : List (String × Field)) : Prop :=
  List.Forall₂ (fun m m' => m.1 = m'.1 ∧ m.2.Alike m'.2) fields fields'

theorem Field.Alike.refl (f : Field) : f.Alike f := ⟨rfl, fun _ _ => rfl⟩

theorem Field.AllAlike.cons {name : String} {f f' : Field} {rest rest' : List (String × Field)}
    (head : f.Alike f') (h : AllAlike rest rest') :
    AllAlike ((name, f) :: rest) ((name, f') :: rest') :=
  List.Forall₂.cons ⟨rfl, head⟩ h

theorem Field.AllAlike.refl (fields : List (String × Field)) : AllAlike fields fields :=
  List.forall₂_same.mpr fun _ _ => ⟨rfl, .refl _⟩

namespace Validation

variable {fields fields' : List (String × Field)}

theorem checkFields_of_alike (h : Field.AllAlike fields fields') (rules : Rules)
    (members : List (String × Value)) :
    checkFields rules members fields = checkFields rules members fields' := by
  induction h with
  | nil => rfl
  | @cons m m' rest rest' hHead _ ih =>
    obtain ⟨name, required, shape⟩ := m
    obtain ⟨name', required', shape'⟩ := m'
    obtain ⟨rfl, hRequired, hShape⟩ := hHead
    have hDeclared : checkDeclared rules members name (.mk required shape) =
        checkDeclared rules members name (.mk required' shape') := by
      unfold checkDeclared
      cases members.lookup name with
      | none => rw [hRequired]
      | some v => exact congrArg (under (.field name)) (hShape rules v)
    rw [checkFields_cons, checkFields_cons, hDeclared, ih]

theorem lookup_isNone_of_alike (h : Field.AllAlike fields fields') (key : String) :
    (fields.lookup key).isNone = (fields'.lookup key).isNone := by
  induction h with
  | nil => rfl
  | @cons m m' rest rest' hHead _ ih =>
    obtain ⟨name, f⟩ := m
    obtain ⟨name', f'⟩ := m'
    obtain ⟨rfl, -⟩ := hHead
    by_cases hKey : key = name
    · rw [hKey, List.lookup_cons_self, List.lookup_cons_self]
      rfl
    · rw [lookup_cons_of_ne hKey, lookup_cons_of_ne hKey, ih]

theorem checkSchema_of_alike {s s' : Schema} (h : Field.AllAlike s.fields s'.fields) (rules : Rules)
    (members : List (String × Value)) :
    checkSchema rules s members = checkSchema rules s' members := by
  obtain ⟨fields⟩ := s
  obtain ⟨fields'⟩ := s'
  have hFields : Field.AllAlike fields fields' := h
  rw [checkSchema_mk, checkSchema_mk, checkFields_of_alike hFields]
  simp only [checkKeys, lookup_isNone_of_alike hFields]

end Validation

/-- The shape of a kind with nothing else asked. -/
def Kind.bare : Kind → Shape
  | .string => .text {}
  | .number => .number {}
  | .double => .double {}
  | .boolean => .boolean
  | .array => .array none
  | .object => .object none
  | .null => .null
  | .date => .date
  | .timestamp => .timestamp

theorem Kind.kind_bare (kind : Kind) : kind.bare.kind = kind := by cases kind <;> rfl

open Validation in
theorem Items.alike_bare (kind : Kind) :
    Items.Alike (.kind kind) (.field (.mk false kind.bare)) := by
  intro rules v
  change checkItem rules (.kind kind) v = checkShape rules kind.bare v
  cases hClassify : classify kind v with
  | error why =>
    have hBare : classify kind.bare.kind v = .error why := by rw [kind.kind_bare, hClassify]
    rw [checkShape_of_mismatch hBare, kind.kind_bare, checkItem, hClassify]
    rfl
  | ok c =>
    rw [checkItem, checkShape, kind.kind_bare, hClassify]
    cases kind <;> cases c <;> rfl

theorem Items.alike_schema (s : Schema) :
    Items.Alike (.schema s) (.field (.mk false (.object (some s)))) := by
  intro rules v
  cases v <;> rfl

theorem Items.Alike.field {f f' : Field} (h : f.shape.Alike f'.shape) :
    Items.Alike (.field f) (.field f') := by
  obtain ⟨required, shape⟩ := f
  obtain ⟨required', shape'⟩ := f'
  exact h

theorem Items.Alike.schema {s s' : Schema} (h : Field.AllAlike s.fields s'.fields) :
    Items.Alike (.schema s) (.schema s') := by
  intro rules v
  cases v with
  | object members => exact Validation.checkSchema_of_alike h rules members
  | _ => rfl

theorem Shape.Alike.object {s s' : Schema} (h : Field.AllAlike s.fields s'.fields) :
    Shape.Alike (.object (some s)) (.object (some s')) := by
  intro rules v
  cases v with
  | object members => exact Validation.checkSchema_of_alike h rules members
  | _ => rfl

theorem Shape.Alike.array {items items' : Items} (h : items.Alike items') :
    Shape.Alike (.array (some items)) (.array (some items')) := by
  intro rules v
  cases v with
  | array vs => exact congrArg (Validation.checkElements · 0 vs) (funext (h rules))
  | _ => rfl

namespace Definition

variable {entries entries' : Entries} {key : String} {raw : Value} {path : List DefinitionStep}
  {noted : List Skipped}

theorem readKind_congr (h : entries'.lookup "type" = entries.lookup "type") :
    readKind entries' = readKind entries := by
  rw [readKind, readKind, h]

theorem readRequired_congr {reading : Reading}
    (h : entries'.lookup "required" = entries.lookup "required") :
    readRequired reading entries' = readRequired reading entries := by
  rw [readRequired.eq_def, readRequired.eq_def, h]

theorem checkKeys_put {kind : Kind} (present : entries.lookup key = some raw) (v : Value)
    (h : checkKeys .strict kind entries = .ok ()) :
    checkKeys .strict kind (put entries key v) = .ok () := by
  rw [checkKeys_strict_eq_ok_iff] at h ⊢
  obtain ⟨front, back, hEntries, -⟩ := List.lookup_eq_some_iff.mp present
  have hPresent : key ∈ entries.map Prod.fst := by simp [hEntries]
  intro m hMem
  have hKey : m.1 ∈ (put entries key v).map Prod.fst := List.mem_map_of_mem hMem
  rw [keys_put, if_pos hPresent] at hKey
  obtain ⟨old, hOld, hEq⟩ := List.mem_map.mp hKey
  exact hEq ▸ h old hOld

theorem lookup_underProperties (alone : entries.lookup "properties" = none) :
    (underProperties entries).lookup "properties" = entries.lookup "schema" := by
  induction entries with
  | nil => rfl
  | cons m rest ih =>
    obtain ⟨k, v⟩ := m
    have hProperties : "properties" ≠ k := by
      rintro rfl
      rw [List.lookup_cons_self] at alone
      cases alone
    rw [lookup_cons_of_ne hProperties] at alone
    by_cases hSchema : k = "schema"
    · subst hSchema
      rw [List.lookup_cons_self]
      rfl
    · have hTail := ih alone
      rw [lookup_cons_of_ne (Ne.symm hSchema), ← hTail, underProperties, List.map_cons,
        if_neg hSchema, lookup_cons_of_ne hProperties]
      rfl

theorem lookup_underProperties_of_ne (schema : key ≠ "schema") (properties : key ≠ "properties") :
    (underProperties entries).lookup key = entries.lookup key := by
  induction entries with
  | nil => rfl
  | cons m rest ih =>
    obtain ⟨k, v⟩ := m
    rw [underProperties, List.map_cons]
    by_cases hSchema : k = "schema"
    · rw [if_pos hSchema, lookup_cons_of_ne properties, lookup_cons_of_ne (hSchema ▸ schema)]
      exact ih
    · rw [if_neg hSchema]
      by_cases hKey : key = k
      · rw [hKey, List.lookup_cons_self, List.lookup_cons_self]
      · rw [lookup_cons_of_ne hKey, lookup_cons_of_ne hKey]
        exact ih

theorem checkKeys_underProperties (h : checkKeys .strict .object entries = .ok ()) :
    checkKeys .strict .object (underProperties entries) = .ok () := by
  rw [checkKeys_strict_eq_ok_iff] at h ⊢
  intro m hMem
  obtain ⟨old, hOld, rfl⟩ := List.mem_map.mp hMem
  split
  · rfl
  · exact h old hOld

theorem nestedEntry?_underProperties (alone : entries.lookup "properties" = none) :
    nestedEntry? (underProperties entries) =
      ( nestedEntry? entries).map fun m => ("properties", m.2) := by
  have hSchema : (underProperties entries).lookup "schema" = none := by
    rw [lookup_eq_none_iff_forall]
    intro v hMem
    obtain ⟨old, -, hEq⟩ := List.mem_map.mp hMem
    split at hEq
    · simp at hEq
    · next hOld => exact hOld (congrArg Prod.fst hEq)
  unfold nestedEntry?
  rw [lookup_underProperties alone, alone, hSchema]
  cases entries.lookup "schema" <;> rfl

/-- What is held under `schema` is not read if there are `properties`. -/
theorem nestedEntry?_put (known : key = "properties" ∨ key = "schema")
    (held : entries.lookup key = some raw) (v : Value) :
    ( nestedEntry? entries = some (key, raw) ∧ nestedEntry? (put entries key v) = some (key, v)) ∨
      nestedEntry? (put entries key v) = nestedEntry? entries := by
  rcases known with rfl | rfl
  · left
    unfold nestedEntry?
    rw [held, lookup_put, if_pos rfl]
    exact ⟨rfl, rfl⟩
  · unfold nestedEntry?
    rw [held, lookup_put, if_neg (by decide), lookup_put, if_pos rfl]
    cases entries.lookup "properties" with
    | none => exact .inl ⟨rfl, rfl⟩
    | some other => exact .inr rfl

variable [Pattern.Engine]

theorem describesElement_of_readField {reading : Reading} {f : Field}
    (h : readField reading path entries = .ok (f, noted)) : describesElement entries = true := by
  obtain ⟨kind, -, -, hKind, -⟩ := readField_eq_ok_iff.mp h
  obtain ⟨name, hType, -⟩ := kind?_eq_some_iff.mp (readKind_eq_ok_iff.mp hKind)
  exact describesElement_eq_true_iff.mpr ⟨name, hType⟩

theorem describesElement_of_readFields {s : Schema}
    (h : readFields .strict path entries = .ok (s, noted)) : describesElement entries = false := by
  rw [Bool.eq_false_iff]
  intro hDescribes
  obtain ⟨name, hType⟩ := describesElement_eq_true_iff.mp hDescribes
  clear hDescribes
  induction entries generalizing s noted with
  | nil => cases hType
  | cons m rest ih =>
    obtain ⟨k, v⟩ := m
    obtain ⟨f, n, others, n', hEntry, hRest, -, -⟩ := readFields_cons_strict_eq_ok_iff.mp h
    by_cases hKey : "type" = k
    · subst hKey
      rw [List.lookup_cons_self] at hType
      cases hType
      obtain ⟨-, _, hEq, -⟩ := readEntry_eq_ok_iff.mp hEntry
      cases hEq
    · exact ih hRest (lookup_cons_of_ne hKey ▸ hType)

/-- A definition of a kind alone, which is not that of an array, is read as that kind. -/
theorem readField_bare {name : String} {kind : Kind} (known : Kind.ofName? name = some kind)
    (other : kind ≠ .array) :
    readField .strict path [("type", .text name)] = .ok (.mk false kind.bare, []) := by
  refine readField_eq_ok_iff.mpr ⟨kind, false, kind.bare, ?_, ?_, rfl, ?_, rfl⟩
  · exact readKind_eq_ok_iff.mpr (kind?_eq_some_iff.mpr ⟨name, rfl, known⟩)
  · rw [checkKeys_strict_eq_ok_iff, List.forall_mem_singleton]
    rfl
  · cases kind
    case array => exact absurd rfl other
    case object => exact readShape_object_eq_ok_iff.mpr (.inl ⟨rfl, rfl, rfl⟩)
    all_goals
      rw [readShape]
      rfl

theorem readField_elements {s : Schema} (h : readFields .strict path entries = .ok (s, noted)) :
    readField .strict path [("type", .text "object"), ("properties", .object entries)] =
      .ok (.mk false (.object (some s)), noted) :=
  readField_eq_ok_iff.mpr ⟨.object, false, .object (some s), rfl, rfl, rfl,
    readShape_object_eq_ok_iff.mpr (.inr ⟨"properties", entries, s, rfl, h, rfl⟩), rfl⟩

/-- A definition of a field stays acceptable if its kind and whether it is required stay, and what
its kind goes into is still read. -/
theorem readField_of_parts {f : Field} (h : readField .strict path entries = .ok (f, noted))
    (kind : readKind entries' = readKind entries)
    (required : entries'.lookup "required" = entries.lookup "required")
    (parts : ∀ kind shape, kind? entries = some kind → checkKeys .strict kind entries = .ok () →
      readShape .strict path kind entries = .ok (shape, noted) →
        checkKeys .strict kind entries' = .ok () ∧
          ∃ shape', readShape .strict path kind entries' = .ok (shape', noted) ∧
            shape.Alike shape') :
    ∃ f', readField .strict path entries' = .ok (f', noted) ∧ f.Alike f' := by
  obtain ⟨k, r, shape, hKind, hKeys, hRequired, hShape, rfl⟩ := readField_eq_ok_iff.mp h
  obtain ⟨hKeys', shape', hShape', hAlike⟩ :=
    parts k shape (readKind_eq_ok_iff.mp hKind) hKeys hShape
  have hRequired' : readRequired .strict entries' = .ok r :=
    (readRequired_congr required).trans hRequired
  exact ⟨.mk r shape', readField_eq_ok_iff.mpr
    ⟨k, r, shape', kind.trans hKind, hKeys', hRequired', hShape', rfl⟩, rfl, hAlike⟩

-- By the place of the new spelling. What stands around it is read as before, and what is read there
-- is checked alike.
mutual

theorem readFields_of_respelt {entries entries' : Entries} :
    Respelt entries entries' → ∀ (path : List DefinitionStep) (noted : List Skipped) (s : Schema),
      readFields .strict path entries = .ok (s, noted) →
        ∃ s', readFields .strict path entries' = .ok (s', noted) ∧
          Field.AllAlike s.fields s'.fields
  | .here respelt, path, _, _, h => by
    obtain ⟨f, n, others, n', hEntry, hRest, rfl, rfl⟩ := readFields_cons_strict_eq_ok_iff.mp h
    obtain ⟨hName, _, hEq, hField⟩ := readEntry_eq_ok_iff.mp hEntry
    cases hEq
    obtain ⟨f', hField', hAlike⟩ := readField_of_respelt respelt _ _ _ hField
    exact ⟨_, readFields_cons_strict_eq_ok_iff.mpr ⟨f', n, others, n',
      readEntry_eq_ok_iff.mpr ⟨hName, _, rfl, hField'⟩, hRest, rfl, rfl⟩, .cons hAlike (.refl _)⟩
  | .later respelt, path, _, _, h => by
    obtain ⟨f, n, others, n', hEntry, hRest, rfl, rfl⟩ := readFields_cons_strict_eq_ok_iff.mp h
    obtain ⟨others', hRest', hAlike⟩ := readFields_of_respelt respelt path _ _ hRest
    exact ⟨_, readFields_cons_strict_eq_ok_iff.mpr ⟨f, n, others', n', hEntry, hRest', rfl, rfl⟩,
      .cons (.refl f) hAlike⟩

theorem readField_of_respelt {entries entries' : Entries} :
    RespeltField entries entries' →
      ∀ (path : List DefinitionStep) (noted : List Skipped) (f : Field),
        readField .strict path entries = .ok (f, noted) →
          ∃ f', readField .strict path entries' = .ok (f', noted) ∧ f.Alike f'
  | .boolean type, path, noted, f, h => by
    have hKind : kind? entries = some .boolean := kind?_eq_some_iff.mpr ⟨"bool", type, rfl⟩
    have hKind' : kind? (put entries "type" (.text "boolean")) = some .boolean :=
      kind?_eq_some_iff.mpr ⟨"boolean", by rw [lookup_put, if_pos rfl], rfl⟩
    have hSame := (readKind_eq_ok_iff.mpr hKind').trans (readKind_eq_ok_iff.mpr hKind).symm
    refine readField_of_parts h hSame (by rw [lookup_put, if_neg (by decide)]) ?_
    intro kind shape hFound hKeys hShape
    obtain rfl : Kind.boolean = kind := Option.some.inj (hKind.symm.trans hFound)
    refine ⟨checkKeys_put type _ hKeys, shape, ?_, fun _ _ => rfl⟩
    rw [readShape] at hShape ⊢
    exact hShape
  | .properties object alone, path, noted, f, h => by
    refine readField_of_parts h (readKind_congr ?_) ?_ ?_
    · exact lookup_underProperties_of_ne (by decide) (by decide)
    · exact lookup_underProperties_of_ne (by decide) (by decide)
    intro kind shape hFound hKeys hShape
    obtain rfl : Kind.object = kind := Option.some.inj (object.symm.trans hFound)
    refine ⟨checkKeys_underProperties hKeys, shape, ?_, fun _ _ => rfl⟩
    have hEntry := nestedEntry?_underProperties alone
    rcases readShape_object_eq_ok_iff.mp hShape with ⟨hNone, rfl, rfl⟩ |
      ⟨key, inner, s, hInner, hRead, rfl⟩
    · rw [hNone] at hEntry
      exact readShape_object_eq_ok_iff.mpr (.inl ⟨hEntry, rfl, rfl⟩)
    · rw [hInner] at hEntry
      exact readShape_object_eq_ok_iff.mpr (.inr ⟨"properties", inner, s, hEntry, hRead, rfl⟩)
  | @RespeltField.nested _ inner inner' key object known held respelt, path, noted, f, h => by
    have hType : "type" ≠ key := by rcases known with rfl | rfl <;> decide
    have hRequired : "required" ≠ key := by rcases known with rfl | rfl <;> decide
    refine readField_of_parts h (readKind_congr ?_) ?_ ?_
    · rw [lookup_put, if_neg hType]
    · rw [lookup_put, if_neg hRequired]
    intro kind shape hFound hKeys hShape
    obtain rfl : Kind.object = kind := Option.some.inj (object.symm.trans hFound)
    refine ⟨checkKeys_put held _ hKeys, ?_⟩
    rcases nestedEntry?_put known held (.object inner') with ⟨hHeld, hPut⟩ | hSame
    · rcases readShape_object_eq_ok_iff.mp hShape with ⟨hNone, -⟩ |
        ⟨_, _, s, hFound, hRead, rfl⟩
      · cases hHeld.symm.trans hNone
      · cases hHeld.symm.trans hFound
        obtain ⟨s', hRead', hAlike⟩ := readFields_of_respelt respelt path _ _ hRead
        exact ⟨_, readShape_object_eq_ok_iff.mpr (.inr ⟨key, inner', s', hPut, hRead', rfl⟩),
          .object hAlike⟩
    · refine ⟨shape, readShape_object_eq_ok_iff.mpr ?_, fun _ _ => rfl⟩
      rw [hSame]
      exact readShape_object_eq_ok_iff.mp hShape
  | .items array held respelt, path, noted, f, h => by
    refine readField_of_parts h (readKind_congr ?_) ?_ ?_
    · rw [lookup_put, if_neg (by decide)]
    · rw [lookup_put, if_neg (by decide)]
    intro kind shape hFound hKeys hShape
    obtain rfl : Kind.array = kind := Option.some.inj (array.symm.trans hFound)
    rcases readShape_array_eq_ok_iff.mp hShape with ⟨-, hMode, -⟩ | ⟨raw, items, hRaw, hItems, rfl⟩
    · cases hMode
    obtain rfl := Option.some.inj (held.symm.trans hRaw)
    obtain ⟨items', hItems', hAlike⟩ := readItems_of_respelt respelt path _ _ hItems
    refine ⟨checkKeys_put held _ hKeys, .array (some items'), ?_, .array hAlike⟩
    exact readShape_array_eq_ok_iff.mpr
      (.inr ⟨_, items', by rw [lookup_put, if_pos rfl], hItems', rfl⟩)

theorem readItems_of_respelt {raw raw' : Value} :
    RespeltItems raw raw' →
      ∀ (path : List DefinitionStep) (noted : List Skipped) (items : Items),
        readItems .strict path raw = .ok (items, noted) →
          ∃ items', readItems .strict path raw' = .ok (items', noted) ∧ items.Alike items'
  | .boolean, path, noted, items, h => ⟨items, by rw [readItems] at h ⊢; exact h, fun _ _ => rfl⟩
  | .kind known other, path, noted, items, h => by
    rcases readItems_eq_ok_iff.mp h with ⟨name, kind, hEq, hName, rfl, rfl⟩ |
      ⟨_, _, hEq, -⟩ | ⟨_, _, hEq, -⟩
    · cases hEq
      obtain rfl := Option.some.inj (known.symm.trans hName)
      exact ⟨_, readItems_eq_ok_iff.mpr
        (.inr (.inl ⟨_, _, rfl, rfl, readField_bare known other, rfl⟩)), Items.alike_bare _⟩
    · cases hEq
    · cases hEq
  | .schema noType, path, noted, items, h => by
    rcases readItems_eq_ok_iff.mp h with ⟨_, _, hEq, -⟩ |
      ⟨_, _, hEq, hType, -⟩ | ⟨_, s, hEq, -, hRead, rfl⟩
    · cases hEq
    · cases hEq
      cases noType.symm.trans hType
    · cases hEq
      exact ⟨_, readItems_eq_ok_iff.mpr
        (.inr (.inl ⟨_, _, rfl, rfl, readField_elements hRead, rfl⟩)), Items.alike_schema s⟩
  | .field type respelt, path, noted, items, h => by
    rcases readItems_eq_ok_iff.mp h with ⟨_, _, hEq, -⟩ |
      ⟨_, f, hEq, -, hRead, rfl⟩ | ⟨_, _, hEq, noType, -⟩
    · cases hEq
    · cases hEq
      obtain ⟨f', hRead', hAlike⟩ := readField_of_respelt respelt _ _ _ hRead
      exact ⟨_, readItems_eq_ok_iff.mpr
        (.inr (.inl ⟨_, f', rfl, describesElement_of_readField hRead', hRead', rfl⟩)),
        .field hAlike.shape⟩
    · cases hEq
      cases type.symm.trans noType
  | .fields noType respelt, path, noted, items, h => by
    rcases readItems_eq_ok_iff.mp h with ⟨_, _, hEq, -⟩ |
      ⟨_, _, hEq, type, -⟩ | ⟨_, s, hEq, -, hRead, rfl⟩
    · cases hEq
    · cases hEq
      cases noType.symm.trans type
    · cases hEq
      obtain ⟨s', hRead', hAlike⟩ := readFields_of_respelt respelt _ _ _ hRead
      exact ⟨_, readItems_eq_ok_iff.mpr
        (.inr (.inr ⟨_, s', rfl, describesElement_of_readFields hRead', hRead', rfl⟩)),
        .schema hAlike⟩

end

end Definition

namespace Schema

/-- A definition that is accepted is accepted in every other spelling, with any number of places
spelt differently at any depth, and data is validated alike against both, down to the failure. -/
theorem validate_of_respelt [Pattern.Engine] {entries entries' : Definition.Entries}
    (respelt : Relation.ReflTransGen Definition.Respelt entries entries') {schema : Schema}
    (accepted : ofDefinition (.object entries) = .ok schema) :
    ∃ schema', ofDefinition (.object entries') = .ok schema' ∧
      ∀ rules data, schema'.validate rules data = schema.validate rules data := by
  induction respelt with
  | refl => exact ⟨schema, accepted, fun _ _ => rfl⟩
  | tail _ last ih =>
    obtain ⟨before, hBefore, hSame⟩ := ih
    obtain ⟨noted, hRead⟩ := ofDefinition_eq_ok_iff.mp hBefore
    obtain ⟨after, hAfter, hAlike⟩ := Definition.readFields_of_respelt last [] noted before hRead
    refine ⟨after, ofDefinition_eq_ok_iff.mpr ⟨noted, hAfter⟩, fun rules data => ?_⟩
    rw [← hSame rules data]
    cases data with
    | object members => exact (Validation.checkSchema_of_alike hAlike rules members).symm
    | _ => rfl

open Definition in
/-- The fields of people are put under a definition of an object, in which a boolean goes by its
other name. Tags are spelt as a definition, and what a home has under the other key. -/
theorem validate_of_respelt_people :
    let flag (name : String) : Value := .object [("type", .text name)]
    let list (items : Value) : Value := .object [("type", .text "array"), ("items", items)]
    let home (key : String) : Value :=
      .object [("type", .text "object"), (key, .object [("owned", flag "boolean")])]
    let entries : Definition.Entries :=
      [("people", list (.object [("active", flag "bool")])), ("tags", list (.text "string")),
        ("home", home "schema")]
    let entries' : Definition.Entries :=
      [("people", list (.object [("type", .text "object"),
          ("properties", .object [("active", flag "boolean")])])),
        ("tags", list (flag "string")), ("home", home "properties")]
    let schema : Schema := .mk
      [("people", .mk false (.array (some (.schema (.mk [("active", .mk false .boolean)]))))),
        ("tags", .mk false (.array (some (.kind .string)))),
        ("home", .mk false (.object (some (.mk [("owned", .mk false .boolean)]))))]
    let data : Value := .object [("tags", .array [.text "new", .int 4]), ("people", .array [])]
    let failure : Failure := ⟨[.field "tags", .index 1], .mismatch .string (.wrongKind .string)⟩
    Relation.ReflTransGen Definition.Respelt entries entries' ∧
      ofDefinition (.object entries) = .ok schema ∧
      schema.validate ⟨true⟩ data = .error failure ∧
      ∃ schema', ofDefinition (.object entries') = .ok schema' ∧
        schema'.validate ⟨true⟩ data = .error failure := by
  intro flag list home entries entries' schema data failure
  have hRespelt : Relation.ReflTransGen Definition.Respelt entries entries' := by
    refine .head (.here (.items rfl rfl (.fields rfl (.here (.boolean rfl))))) ?_
    refine .head (.here (.items rfl rfl (.schema rfl))) ?_
    refine .head (.later (.here (.items rfl rfl (.kind rfl (by decide))))) ?_
    exact .single (.later (.later (.here (.properties rfl rfl))))
  have hNil (path : List DefinitionStep) : readFields .strict path [] = .ok (.empty, []) := by
    rw [readFields]
  have hFlag (name : String) (known : Kind.ofName? name = some .boolean)
      (path : List DefinitionStep) :
      readField .strict path [("type", .text name)] = .ok (.mk false .boolean, []) :=
    readField_bare known (by decide)
  have hPeople (path : List DefinitionStep) :
      readItems .strict path (.object [("active", flag "bool")]) =
        .ok (.schema (.mk [("active", .mk false .boolean)]), []) := by
    refine readItems_eq_ok_iff.mpr (.inr (.inr ⟨_, _, rfl, rfl, ?_, rfl⟩))
    exact readFields_strict_cons rfl (hFlag "bool" rfl _) (hNil _)
  have hTags (path : List DefinitionStep) :
      readItems .strict path (.text "string") = .ok (.kind .string, []) :=
    readItems_eq_ok_iff.mpr (.inl ⟨_, _, rfl, rfl, rfl, rfl⟩)
  have hHome (path : List DefinitionStep) :
      readField .strict path
        [("type", .text "object"), ("schema", .object [("owned", flag "boolean")])] =
        .ok (.mk false (.object (some (.mk [("owned", .mk false .boolean)]))), []) := by
    refine readField_eq_ok_iff.mpr ⟨.object, false, _, rfl, rfl, rfl, ?_, rfl⟩
    refine readShape_object_eq_ok_iff.mpr (.inr ⟨"schema", _, _, rfl, ?_, rfl⟩)
    exact readFields_strict_cons rfl (hFlag "boolean" rfl _) (hNil _)
  have hAccepted : ofDefinition (.object entries) = .ok schema :=
    ofDefinition_eq_ok_iff.mpr ⟨[], readFields_strict_cons rfl (readField_strict_array (hPeople _))
      (readFields_strict_cons rfl (readField_strict_array (hTags _))
        (readFields_strict_cons rfl (hHome _) (hNil _)))⟩
  have hFails : schema.validate ⟨true⟩ data = .error failure := rfl
  obtain ⟨schema', hAccepted', hSame⟩ := validate_of_respelt hRespelt hAccepted
  exact ⟨hRespelt, hAccepted, hFails, schema', hAccepted', (hSame _ data).trans hFails⟩

end Schema

end Intake
