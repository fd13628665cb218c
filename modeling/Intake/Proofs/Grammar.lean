import Intake.Proofs.Conformance
import Intake.Proofs.Readings
import Intake.Proofs.Rounding

/-! # The grammar of definitions

What it is for a definition to be well formed, and the list of everything that offends against it:
entries in the order of the document, an entry before what it holds, and for one entry its name,
its kind, its keys, its flag and its limits. A definition is well formed if the list is empty.
-/

namespace Intake

namespace Definition

structure IsFieldName (name : String) : Prop where
  nonempty : name ≠ ""
  noDollar : name.toList.head? ≠ some '$'
  noPoint : '.' ∉ name.toList

section Offences

variable [Pattern.Engine]

/-- What a definition sets for texts. -/
structure LimitsTexts (entries : Entries) : Prop where
  pattern : ∀ v, entries.lookup "pattern" = some v →
    ∃ source p, v = .text source ∧ Pattern.ofSource? source = some p
  length : ∀ key, key = "minLength" ∨ key = "maxLength" → ∀ v, entries.lookup key = some v →
    ∃ n : Int64, v = .int n ∧ 0 ≤ n.toInt
  ordered : ∀ least most, entries.lookup "minLength" = some (.int least) →
    entries.lookup "maxLength" = some (.int most) → least.toInt ≤ most.toInt

/-- What a definition sets for numbers; the bounds are compared as doubles. -/
structure LimitsNumbers (entries : Entries) : Prop where
  finite : ∀ key, key = "minimum" ∨ key = "maximum" → ∀ v, entries.lookup key = some v →
    ∃ x, v.number? = some x ∧ x.isFinite = true
  ordered : ∀ v w x y, entries.lookup "minimum" = some v → entries.lookup "maximum" = some w →
    v.number? = some x → w.number? = some y → y.lt x = false

/-- The nested definition of an object and the key it is under. -/
inductive Nests (entries : Entries) : String → Value → Prop where
  | properties {raw : Value} (h : entries.lookup "properties" = some raw) :
    Nests entries "properties" raw
  | schema {raw : Value} (noProperties : entries.lookup "properties" = none)
    (h : entries.lookup "schema" = some raw) : Nests entries "schema" raw

mutual

inductive WellFormed : Entries → Prop where
  | mk {entries : Entries}
      (each : ∀ name raw, (name, raw) ∈ entries → WellFormedEntry name raw) : WellFormed entries

inductive WellFormedEntry : String → Value → Prop where
  | mk {name : String} {entries : Entries} (named : IsFieldName name)
      (field : WellFormedField entries) : WellFormedEntry name (.object entries)

inductive WellFormedField : Entries → Prop where
  | mk {entries : Entries} {name : String} {kind : Kind}
      (type : entries.lookup "type" = some (.text name)) (known : Kind.ofName? name = some kind)
      (keys : ∀ key v, (key, v) ∈ entries →
        key ∈ ["type", "required", "description"] ∨ key ∈ kind.ownKeys)
      (required : ∀ v, entries.lookup "required" = some v → ∃ b, v = .bool b)
      (texts : kind = .string → LimitsTexts entries)
      (numbers : kind = .number ∨ kind = .double → LimitsNumbers entries)
      (mapping : kind = .object → ∀ key raw, Nests entries key raw → ∃ inner, raw = .object inner)
      (nested : kind = .object → ∀ key inner, Nests entries key (.object inner) →
        WellFormed inner)
      (present : kind = .array → ∃ raw, entries.lookup "items" = some raw)
      (items : kind = .array → ∀ raw, entries.lookup "items" = some raw → WellFormedItems raw) :
      WellFormedField entries

/-- A mapping whose `type` is a text describes an element, any other mapping the fields of one. -/
inductive WellFormedItems : Value → Prop where
  | kind {name : String} {kind : Kind} (known : Kind.ofName? name = some kind) :
      WellFormedItems (.text name)
  | field {entries : Entries} {name : String} (type : entries.lookup "type" = some (.text name))
      (h : WellFormedField entries) : WellFormedItems (.object entries)
  | schema {entries : Entries} (noType : ∀ name, entries.lookup "type" ≠ some (.text name))
      (h : WellFormed entries) : WellFormedItems (.object entries)

end

def nameFaults (name : String) : List Fault :=
  (if name = "" then [.emptyName] else []) ++
    (if name.toList.head? = some '$' then [.dollarName] else []) ++
    if '.' ∈ name.toList then [.dottedName] else []

def kind? (entries : Entries) : Option Kind :=
  match entries.lookup "type" with
  | some (.text name) => Kind.ofName? name
  | _ => none

def kindFaults (entries : Entries) : List Fault :=
  match entries.lookup "type" with
  | none => [.typeMissing]
  | some (.text name) => if (Kind.ofName? name).isSome then [] else [.typeUnknown name]
  | some _ => [.typeNotText]

def keyFaults (kind : Kind) (entries : Entries) : List Fault :=
  (entries.filter fun (key, _) => !kind.allowsKey key).map fun (key, _) => .keyNotAllowed key kind

def requiredFaults (entries : Entries) : List Fault :=
  match entries.lookup "required" with
  | none | some (.bool _) => []
  | some _ => [.requiredNotBoolean]

def patternFaults (entries : Entries) : List Fault :=
  match entries.lookup "pattern" with
  | none => []
  | some (.text source) =>
    if (Pattern.ofSource? source).isSome then [] else [.patternUnreadable source]
  | some _ => [.patternNotText]

def lengthFaults (entries : Entries) (key : String) : List Fault :=
  match entries.lookup key with
  | none => []
  | some (.int n) => if 0 ≤ n.toInt then [] else [.lengthNotNatural key]
  | some _ => [.lengthNotNatural key]

def boundFaults (entries : Entries) (key : String) : List Fault :=
  match entries.lookup key with
  | none => []
  | some v => if (v.number?.any Double.isFinite) then [] else [.boundNotNumber key]

def length? (entries : Entries) (key : String) : Option Int :=
  match entries.lookup key with
  | some (.int n) => some n.toInt
  | _ => none

def lengthsCrossedFaults (entries : Entries) : List Fault :=
  match length? entries "minLength", length? entries "maxLength" with
  | some least, some most => if most < least then [.lengthsCrossed] else []
  | _, _ => []

def bound? (entries : Entries) (key : String) : Option Double :=
  (entries.lookup key).bind Value.number?

def boundsCrossedFaults (entries : Entries) : List Fault :=
  match bound? entries "minimum", bound? entries "maximum" with
  | some least, some most => if most.lt least then [.boundsCrossed] else []
  | _, _ => []

def textFaults (entries : Entries) : List Fault :=
  patternFaults entries ++ (lengthFaults entries "minLength" ++
    (lengthFaults entries "maxLength" ++ lengthsCrossedFaults entries))

def numberFaults (entries : Entries) : List Fault :=
  boundFaults entries "minimum" ++ (boundFaults entries "maximum" ++ boundsCrossedFaults entries)

def limitFaults (kind : Kind) (entries : Entries) : List Fault :=
  match kind with
  | .string => textFaults entries
  | .number | .double => numberFaults entries
  | _ => []

/-- Faults of one entry, with its place. -/
def faultsAt (path : List DefinitionStep) (faults : List Fault) : List Malformed :=
  faults.map (Malformed.mk path)

mutual

def offences (path : List DefinitionStep) (entries : Entries) : List Malformed :=
  match entries with
  | [] => []
  | (name, raw) :: rest => entryOffences (path ++ [.field name]) name raw ++ offences path rest
termination_by 3 * sizeOf entries

def entryOffences (path : List DefinitionStep) (name : String) (raw : Value) : List Malformed :=
  faultsAt path (nameFaults name) ++
    match raw with
    | .object entries => fieldOffences path entries
    | _ => faultsAt path [.notMapping]
termination_by 3 * sizeOf raw

def fieldOffences (path : List DefinitionStep) (entries : Entries) : List Malformed :=
  match kind? entries with
  | none => faultsAt path (kindFaults entries)
  | some kind =>
    faultsAt path (keyFaults kind entries) ++ (faultsAt path (requiredFaults entries) ++
      (faultsAt path (limitFaults kind entries) ++ innerOffences path kind entries))
termination_by 3 * sizeOf entries + 2

/-- What is wrong inside an object or an array. -/
def innerOffences (path : List DefinitionStep) (kind : Kind) (entries : Entries) :
    List Malformed :=
  match kind with
  | .object =>
    match h : nestedEntry? entries with
    | none => []
    | some (_, .object inner) =>
      have : 1 + sizeOf inner < sizeOf entries := by simpa using nestedEntry?_sizeOf h
      offences path inner
    | some (key, _) => faultsAt path [.nestedNotMapping key]
  | .array =>
    match h : entries.lookup "items" with
    | none => faultsAt path [.itemsMissing]
    | some raw =>
      have := Value.lookup_sizeOf h
      itemsOffences path raw
  | _ => []
termination_by 3 * sizeOf entries + 1

def itemsOffences (path : List DefinitionStep) (raw : Value) : List Malformed :=
  match raw with
  | .text name =>
    if (Kind.ofName? name).isSome then [] else faultsAt (path ++ [.items]) [.typeUnknown name]
  | .object entries =>
    if describesElement entries then fieldOffences (path ++ [.items]) entries
    else offences (path ++ [.items]) entries
  | _ => faultsAt path [.itemsUnreadable]
termination_by 3 * sizeOf raw

end

end Offences

variable {entries : Entries} {kind : Kind} {key : String} {path : List DefinitionStep}

theorem nameFaults_eq_nil_iff {name : String} : nameFaults name = [] ↔ IsFieldName name := by
  have hIf (p : Prop) [Decidable p] (f : Fault) : (if p then [f] else []) = [] ↔ ¬p := by
    split <;> simp_all
  unfold nameFaults
  rw [List.append_eq_nil_iff, List.append_eq_nil_iff, hIf, hIf, hIf]
  exact ⟨fun ⟨⟨h₁, h₂⟩, h₃⟩ => ⟨h₁, h₂, h₃⟩, fun ⟨h₁, h₂, h₃⟩ => ⟨⟨h₁, h₂⟩, h₃⟩⟩

theorem kind?_eq_some_iff : kind? entries = some kind ↔
    ∃ name, entries.lookup "type" = some (.text name) ∧ Kind.ofName? name = some kind := by
  unfold kind?
  cases entries.lookup "type" with
  | none => simp
  | some v => cases v <;> simp

/-- An entry of no kind has a fault. -/
theorem kindFaults_ne_nil (h : kind? entries = none) : kindFaults entries ≠ [] := by
  unfold kind? at h
  unfold kindFaults
  cases hType : entries.lookup "type" with
  | none => simp
  | some v =>
    rw [hType] at h
    cases v with
    | text name => simp_all
    | _ => simp

theorem keyFaults_eq_nil_iff : keyFaults kind entries = [] ↔ ∀ key v, (key, v) ∈ entries →
    key ∈ ["type", "required", "description"] ∨ key ∈ kind.ownKeys := by
  have hAllows (key : String) : kind.allowsKey key = true ↔
      key ∈ ["type", "required", "description"] ∨ key ∈ kind.ownKeys := by
    simp only [Kind.allowsKey, Bool.or_eq_true, List.contains_iff_mem]
  unfold keyFaults
  rw [List.map_eq_nil_iff, List.filter_eq_nil_iff]
  simp only [Prod.forall, Bool.not_eq_true', Bool.not_eq_false, hAllows]

theorem requiredFaults_eq_nil_iff : requiredFaults entries = [] ↔
    ∀ v, entries.lookup "required" = some v → ∃ b, v = .bool b := by
  unfold requiredFaults
  cases entries.lookup "required" with
  | none => simp
  | some v => cases v <;> simp

theorem patternFaults_eq_nil_iff [Pattern.Engine] : patternFaults entries = [] ↔
    ∀ v, entries.lookup "pattern" = some v →
      ∃ source p, v = .text source ∧ Pattern.ofSource? source = some p := by
  unfold patternFaults
  cases entries.lookup "pattern" with
  | none => simp
  | some v =>
    cases v with
    | text source => cases h : Pattern.ofSource? source <;> simp [h]
    | _ => simp

theorem lengthFaults_eq_nil_iff : lengthFaults entries key = [] ↔
    ∀ v, entries.lookup key = some v → ∃ n : Int64, v = .int n ∧ 0 ≤ n.toInt := by
  unfold lengthFaults
  cases entries.lookup key with
  | none => simp
  | some v => cases v <;> simp

theorem length?_eq_some_iff {n : Int} : length? entries key = some n ↔
    ∃ m : Int64, entries.lookup key = some (.int m) ∧ m.toInt = n := by
  unfold length?
  cases entries.lookup key with
  | none => simp
  | some v => cases v <;> simp

theorem lengthsCrossedFaults_eq_nil_iff : lengthsCrossedFaults entries = [] ↔
    ∀ least most, entries.lookup "minLength" = some (.int least) →
      entries.lookup "maxLength" = some (.int most) → least.toInt ≤ most.toInt := by
  have hFaults : lengthsCrossedFaults entries = [] ↔ ∀ a b, length? entries "minLength" = some a →
      length? entries "maxLength" = some b → a ≤ b := by
    unfold lengthsCrossedFaults
    cases length? entries "minLength" with
    | none => simp
    | some a => cases length? entries "maxLength" <;> simp
  rw [hFaults]
  constructor
  · intro h least most hLeast hMost
    exact h _ _ (length?_eq_some_iff.mpr ⟨least, hLeast, rfl⟩)
      (length?_eq_some_iff.mpr ⟨most, hMost, rfl⟩)
  · intro h a b ha hb
    obtain ⟨least, hLeast, rfl⟩ := length?_eq_some_iff.mp ha
    obtain ⟨most, hMost, rfl⟩ := length?_eq_some_iff.mp hb
    exact h least most hLeast hMost

theorem textFaults_eq_nil_iff [Pattern.Engine] : textFaults entries = [] ↔ LimitsTexts entries := by
  unfold textFaults
  rw [List.append_eq_nil_iff, List.append_eq_nil_iff, List.append_eq_nil_iff,
    patternFaults_eq_nil_iff, lengthFaults_eq_nil_iff, lengthFaults_eq_nil_iff,
    lengthsCrossedFaults_eq_nil_iff]
  constructor
  · rintro ⟨hPattern, hLeast, hMost, hOrdered⟩
    refine ⟨hPattern, ?_, hOrdered⟩
    rintro key (rfl | rfl)
    · exact hLeast
    · exact hMost
  · rintro ⟨hPattern, hLength, hOrdered⟩
    exact ⟨hPattern, hLength _ (.inl rfl), hLength _ (.inr rfl), hOrdered⟩

theorem boundFaults_eq_nil_iff : boundFaults entries key = [] ↔
    ∀ v, entries.lookup key = some v → ∃ x, v.number? = some x ∧ x.isFinite = true := by
  unfold boundFaults
  cases entries.lookup key with
  | none => simp
  | some v => simp [Option.any_eq_true]

theorem boundsCrossedFaults_eq_nil_iff : boundsCrossedFaults entries = [] ↔
    ∀ v w x y, entries.lookup "minimum" = some v → entries.lookup "maximum" = some w →
      v.number? = some x → w.number? = some y → y.lt x = false := by
  have hFaults : boundsCrossedFaults entries = [] ↔ ∀ x y, bound? entries "minimum" = some x →
      bound? entries "maximum" = some y → y.lt x = false := by
    unfold boundsCrossedFaults
    cases bound? entries "minimum" with
    | none => simp
    | some a => cases bound? entries "maximum" <;> simp
  rw [hFaults]
  constructor
  · intro h v w x y hv hw hx hy
    exact h x y (Option.bind_eq_some_iff.mpr ⟨v, hv, hx⟩) (Option.bind_eq_some_iff.mpr ⟨w, hw, hy⟩)
  · intro h x y hx hy
    obtain ⟨v, hv, hx⟩ := Option.bind_eq_some_iff.mp hx
    obtain ⟨w, hw, hy⟩ := Option.bind_eq_some_iff.mp hy
    exact h v w x y hv hw hx hy

theorem numberFaults_eq_nil_iff : numberFaults entries = [] ↔ LimitsNumbers entries := by
  unfold numberFaults
  rw [List.append_eq_nil_iff, List.append_eq_nil_iff, boundFaults_eq_nil_iff,
    boundFaults_eq_nil_iff, boundsCrossedFaults_eq_nil_iff]
  constructor
  · rintro ⟨hLeast, hMost, hOrdered⟩
    refine ⟨?_, hOrdered⟩
    rintro key (rfl | rfl)
    · exact hLeast
    · exact hMost
  · rintro ⟨hFinite, hOrdered⟩
    exact ⟨hFinite _ (.inl rfl), hFinite _ (.inr rfl), hOrdered⟩

theorem limitFaults_eq_nil_iff [Pattern.Engine] : limitFaults kind entries = [] ↔
    (kind = .string → LimitsTexts entries) ∧
      (kind = .number ∨ kind = .double → LimitsNumbers entries) := by
  cases kind <;> simp [limitFaults, textFaults_eq_nil_iff, numberFaults_eq_nil_iff]

theorem faultsAt_eq_nil_iff {faults : List Fault} : faultsAt path faults = [] ↔ faults = [] :=
  List.map_eq_nil_iff

theorem nestedEntry?_eq_some_iff {raw : Value} :
    nestedEntry? entries = some (key, raw) ↔ Nests entries key raw := by
  unfold nestedEntry?
  constructor
  · intro h
    split at h
    · next hProperties =>
      cases h
      exact .properties hProperties
    · next hNone =>
      obtain ⟨found, hSchema, hEq⟩ := Option.map_eq_some_iff.mp h
      cases hEq
      exact .schema hNone hSchema
  · rintro (hProperties | ⟨hNone, hSchema⟩)
    · rw [hProperties]
    · rw [hNone, hSchema]
      rfl

theorem describesElement_eq_true_iff : describesElement entries = true ↔
    ∃ name, entries.lookup "type" = some (.text name) := by
  unfold describesElement
  cases entries.lookup "type" with
  | none => simp
  | some v => cases v <;> simp

variable [Pattern.Engine]

theorem innerOffences_object (entries : Entries) :
    innerOffences path .object entries =
      match nestedEntry? entries with
      | none => []
      | some (_, .object inner) => offences path inner
      | some (key, _) => faultsAt path [.nestedNotMapping key] := by
  rw [innerOffences]
  split <;> simp_all

theorem innerOffences_array (entries : Entries) :
    innerOffences path .array entries =
      match entries.lookup "items" with
      | none => faultsAt path [.itemsMissing]
      | some raw => itemsOffences path raw := by
  rw [innerOffences]
  split <;> next hItems => simp only [hItems]

theorem innerOffences_of_flat (object : kind ≠ .object) (array : kind ≠ .array) :
    innerOffences path kind entries = [] := by
  cases kind <;> first | contradiction | (rw [innerOffences]; all_goals nofun)

mutual

theorem offences_eq_nil_iff (path : List DefinitionStep) :
    (entries : Entries) → (offences path entries = [] ↔ WellFormed entries)
  | [] => by
    rw [offences]
    exact iff_of_true rfl ⟨fun _ _ hMem => absurd hMem List.not_mem_nil⟩
  | (name, raw) :: rest => by
    rw [offences, List.append_eq_nil_iff, entryOffences_eq_nil_iff _ name raw,
      offences_eq_nil_iff path rest]
    constructor
    · rintro ⟨hEntry, ⟨hRest⟩⟩
      refine ⟨fun n r hMem => ?_⟩
      rcases List.mem_cons.mp hMem with hEq | hMem
      · cases hEq
        exact hEntry
      · exact hRest n r hMem
    · rintro ⟨each⟩
      exact ⟨each name raw List.mem_cons_self,
        ⟨fun n r hMem => each n r (List.mem_cons_of_mem _ hMem)⟩⟩
termination_by entries => 3 * sizeOf entries

theorem entryOffences_eq_nil_iff (path : List DefinitionStep) (name : String) (raw : Value) :
    entryOffences path name raw = [] ↔ WellFormedEntry name raw := by
  unfold entryOffences
  rw [List.append_eq_nil_iff, faultsAt_eq_nil_iff, nameFaults_eq_nil_iff]
  cases raw with
  | object entries =>
    dsimp only
    rw [fieldOffences_eq_nil_iff path entries]
    exact ⟨fun ⟨named, field⟩ => ⟨named, field⟩, fun ⟨named, field⟩ => ⟨named, field⟩⟩
  | _ => exact iff_of_false (fun h => nomatch h.2) nofun
termination_by 3 * sizeOf raw

theorem fieldOffences_eq_nil_iff (path : List DefinitionStep) (entries : Entries) :
    fieldOffences path entries = [] ↔ WellFormedField entries := by
  rw [fieldOffences]
  cases hKind : kind? entries with
  | none =>
    dsimp only
    rw [faultsAt_eq_nil_iff]
    refine iff_of_false (kindFaults_ne_nil hKind) ?_
    rintro ⟨type, known, -⟩
    rw [kind?_eq_some_iff.mpr ⟨_, type, known⟩] at hKind
    cases hKind
  | some kind =>
    dsimp only
    rw [List.append_eq_nil_iff, List.append_eq_nil_iff, List.append_eq_nil_iff,
      faultsAt_eq_nil_iff, faultsAt_eq_nil_iff, faultsAt_eq_nil_iff, keyFaults_eq_nil_iff,
      requiredFaults_eq_nil_iff, limitFaults_eq_nil_iff, innerOffences_eq_nil_iff path kind entries]
    constructor
    · rintro ⟨keys, required, ⟨texts, numbers⟩, ⟨mapping, nested⟩, present, items⟩
      obtain ⟨name, type, known⟩ := kind?_eq_some_iff.mp hKind
      exact ⟨type, known, keys, required, texts, numbers, mapping, nested, present, items⟩
    · rintro ⟨type, known, keys, required, texts, numbers, mapping, nested, present, items⟩
      rw [kind?_eq_some_iff.mpr ⟨_, type, known⟩] at hKind
      cases hKind
      exact ⟨keys, required, ⟨texts, numbers⟩, ⟨mapping, nested⟩, present, items⟩
termination_by 3 * sizeOf entries + 2

theorem innerOffences_eq_nil_iff (path : List DefinitionStep) (kind : Kind) (entries : Entries) :
    innerOffences path kind entries = [] ↔
      ((kind = .object → ∀ key raw, Nests entries key raw → ∃ inner, raw = .object inner) ∧
        (kind = .object → ∀ key inner, Nests entries key (.object inner) → WellFormed inner)) ∧
      (kind = .array → ∃ raw, entries.lookup "items" = some raw) ∧
        (kind = .array → ∀ raw, entries.lookup "items" = some raw → WellFormedItems raw) := by
  cases kind with
  | object =>
    simp only [innerOffences_object, ← nestedEntry?_eq_some_iff, reduceCtorEq, forall_const,
      false_implies, and_true]
    cases hNested : nestedEntry? entries with
    | none => simp
    | some found =>
      obtain ⟨key, raw⟩ := found
      cases raw with
      | object inner =>
        have hSize : 1 + sizeOf inner < sizeOf entries := by
          simpa using nestedEntry?_sizeOf hNested
        dsimp only
        rw [offences_eq_nil_iff path inner]
        simp
      | _ => simp [faultsAt]
  | array =>
    simp only [innerOffences_array, reduceCtorEq, forall_const, false_implies, true_and]
    cases hItems : entries.lookup "items" with
    | none => simp [faultsAt]
    | some raw =>
      have hSize : sizeOf raw < sizeOf entries := Value.lookup_sizeOf hItems
      dsimp only
      rw [itemsOffences_eq_nil_iff path raw]
      simp
  | _ => all_goals simp [innerOffences_of_flat]
termination_by 3 * sizeOf entries + 1

theorem itemsOffences_eq_nil_iff (path : List DefinitionStep) (raw : Value) :
    itemsOffences path raw = [] ↔ WellFormedItems raw := by
  unfold itemsOffences
  cases raw with
  | text name =>
    dsimp only
    cases hName : Kind.ofName? name with
    | none =>
      refine iff_of_false (by simp [faultsAt]) ?_
      rintro ⟨known⟩
      rw [hName] at known
      cases known
    | some kind => exact iff_of_true rfl (.kind hName)
  | object entries =>
    dsimp only
    split
    · next hDescribes =>
      obtain ⟨name, type⟩ := describesElement_eq_true_iff.mp hDescribes
      rw [fieldOffences_eq_nil_iff _ entries]
      constructor
      · exact .field type
      · rintro (_ | ⟨-, field⟩ | ⟨noType, -⟩)
        · exact field
        · exact absurd type (noType name)
    · next hDescribes =>
      have noType : ∀ name, entries.lookup "type" ≠ some (.text name) := fun name type =>
        hDescribes (describesElement_eq_true_iff.mpr ⟨name, type⟩)
      rw [offences_eq_nil_iff _ entries]
      constructor
      · exact .schema noType
      · rintro (_ | ⟨type, -⟩ | ⟨-, h⟩)
        · exact absurd type (noType _)
        · exact h
  | _ => exact iff_of_false nofun nofun
termination_by 3 * sizeOf raw

end

end Definition

end Intake
