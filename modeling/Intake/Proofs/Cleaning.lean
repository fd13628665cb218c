import Intake.Proofs.Announcing
import Mathlib.Algebra.Order.Ring.Nat

/-! # Cleaned definitions

A definition without what a lenient reading passes over: entries it leaves out, keys that do not
belong to the kind and flags that are no booleans. The cleaned definition has nothing left to pass
over, and it is read as the same schema; strictly, if its arrays say what their elements are.
-/

namespace Intake

namespace Definition

/-- The key under which a field of some kind holds further definitions. -/
def heldKey? (kind : Kind) (entries : Entries) : Option String :=
  match kind with
  | .object => nestedEntry? entries |>.map Prod.fst
  | .array => some "items"
  | _ => none

def isFlagged (entries : Entries) : Bool :=
  match entries.lookup "required" with
  | some (.bool _) => true
  | _ => false

def keepsKey (kind : Kind) (flagged : Bool) (key : String) : Bool :=
  kind.allowsKey key && (key != "required" || flagged)

section Clean

variable [Pattern.Engine]

mutual

def clean (entries : Entries) : Entries :=
  match entries with
  | [] => []
  | (name, raw) :: rest =>
    bif keeps name raw then (name, cleanEntry raw) :: clean rest else clean rest
termination_by 3 * sizeOf entries

def cleanEntry (raw : Value) : Value :=
  match raw with
  | .object entries => .object (cleanField entries)
  | _ => raw
termination_by 3 * sizeOf raw

def cleanField (entries : Entries) : Entries :=
  match kind? entries with
  | none => entries
  | some kind => cleanKeys kind (isFlagged entries) (heldKey? kind entries) entries
termination_by 3 * sizeOf entries + 1

def cleanKeys (kind : Kind) (flagged : Bool) (held : Option String) (members : Entries) :
    Entries :=
  match members with
  | [] => []
  | (key, v) :: rest =>
    if keepsKey kind flagged key then
      (key, if held = some key then cleanHeld kind v else v) :: cleanKeys kind flagged held rest
    else cleanKeys kind flagged held rest
termination_by 3 * sizeOf members

/-- Definitions inside an object are the fields of one; those inside an array may describe an
element itself. -/
def cleanHeld (kind : Kind) (v : Value) : Value :=
  match v with
  | .object inner =>
    if kind = .array && describesElement inner then .object (cleanField inner)
    else .object (clean inner)
  | _ => v
termination_by 3 * sizeOf v

end

mutual

/-- Every array that is kept says what its elements are, at every level. -/
inductive Itemized : Entries → Prop where
  | mk {entries : Entries}
      (each : ∀ name inner, (name, .object inner) ∈ entries →
        keeps name (.object inner) = true → ItemizedField inner) : Itemized entries

inductive ItemizedField : Entries → Prop where
  | mk {entries : Entries}
      (present : kind? entries = some .array → ∃ raw, entries.lookup "items" = some raw)
      (element : kind? entries = some .array → ∀ inner,
        entries.lookup "items" = some (.object inner) → describesElement inner = true →
        ItemizedField inner)
      (elements : kind? entries = some .array → ∀ inner,
        entries.lookup "items" = some (.object inner) → describesElement inner = false →
        Itemized inner)
      (nested : kind? entries = some .object → ∀ key inner,
        nestedEntry? entries = some (key, .object inner) → Itemized inner) :
      ItemizedField entries

end

end Clean

variable {entries inner : Entries} {kind : Kind} {key : String}

section Keys

variable [Pattern.Engine]

theorem itemizedField_of_not_array (h : kind? entries ≠ some .array)
    (nested : kind? entries = some .object → ∀ key inner,
      nestedEntry? entries = some (key, .object inner) → Itemized inner) :
    ItemizedField entries :=
  ⟨fun array => absurd array h, fun array => absurd array h, fun array => absurd array h, nested⟩

theorem lookup_cleanKeys {flagged : Bool} {held : Option String} (members : Entries) :
    (cleanKeys kind flagged held members).lookup key =
      if keepsKey kind flagged key then
        (members.lookup key).map fun v => if held = some key then cleanHeld kind v else v
      else none := by
  induction members with
  | nil => simp [cleanKeys]
  | cons m rest ih =>
    obtain ⟨k, v⟩ := m
    rw [cleanKeys]
    by_cases hKey : key = k
    · subst hKey
      cases hKeeps : keepsKey kind flagged key with
      | true => simp
      | false => simpa [hKeeps] using ih
    · rw [lookup_cons_of_ne hKey]
      split
      · rw [lookup_cons_of_ne hKey, ih]
      · exact ih

theorem allowsKey_of_mem_cleanKeys {flagged : Bool} {held : Option String} {v : Value}
    (members : Entries) (h : (key, v) ∈ cleanKeys kind flagged held members) :
    kind.allowsKey key = true := by
  induction members with
  | nil => simp [cleanKeys] at h
  | cons m rest ih =>
    obtain ⟨k, w⟩ := m
    rw [cleanKeys] at h
    split at h
    · next hKeeps =>
      rcases List.mem_cons.mp h with hEq | h
      · cases hEq
        exact (Bool.and_eq_true_iff.mp hKeeps).1
      · exact ih h
    · exact ih h

theorem mapping_of_mem_clean {v : Value} (entries : Entries) (h : (key, v) ∈ clean entries) :
    ∃ inner, v = .object inner := by
  induction entries with
  | nil => simp [clean] at h
  | cons m rest ih =>
    obtain ⟨name, raw⟩ := m
    rw [clean] at h
    cases hKeeps : keeps name raw with
    | false =>
      rw [hKeeps] at h
      exact ih h
    | true =>
      rw [hKeeps] at h
      rcases List.mem_cons.mp h with hEq | h
      · cases hEq
        obtain ⟨read, hRead⟩ := (keeps_iff_readEntry []).mp hKeeps
        obtain ⟨-, inner, rfl, -⟩ := readEntry_eq_ok_iff.mp hRead
        exact ⟨_, cleanEntry.eq_1 inner⟩
      · exact ih h

/-- A cleaned mapping of fields does not come to look like the definition of an element. -/
theorem describesElement_clean (entries : Entries) : describesElement (clean entries) = false := by
  rw [Bool.eq_false_iff]
  intro h
  obtain ⟨name, hType⟩ := describesElement_eq_true_iff.mp h
  obtain ⟨front, back, hClean, -⟩ := List.lookup_eq_some_iff.mp hType
  have hMem : ("type", .text name) ∈ clean entries := by simp [hClean]
  obtain ⟨inner, hEq⟩ := mapping_of_mem_clean entries hMem
  cases hEq

end Keys

theorem mem_ownKeys_of_held (h : heldKey? kind entries = some key) : key ∈ kind.ownKeys := by
  cases kind
  case object =>
    obtain ⟨⟨key, raw⟩, hNested, rfl⟩ := Option.map_eq_some_iff.mp h
    cases nestedEntry?_eq_some_iff.mp hNested <;> simp [Kind.ownKeys]
  case array =>
    cases h
    simp [Kind.ownKeys]
  all_goals cases h

theorem keepsKey_of_mem_ownKeys {flagged : Bool} (h : key ∈ kind.ownKeys) :
    keepsKey kind flagged key = true := by
  have hNotFlag : key ≠ "required" := by
    rintro rfl
    cases kind <;> simp [Kind.ownKeys] at h
  simp [keepsKey, Kind.allowsKey, h, hNotFlag]

section Fields

variable (hKind : kind? entries = some kind)
include hKind

variable [Pattern.Engine]

theorem cleanField_of_kind :
    cleanField entries = cleanKeys kind (isFlagged entries) (heldKey? kind entries) entries := by
  rw [cleanField, hKind]

theorem lookup_cleanField_held (h : heldKey? kind entries = some key) :
    (cleanField entries).lookup key = (entries.lookup key).map (cleanHeld kind) := by
  rw [cleanField_of_kind hKind, lookup_cleanKeys,
    if_pos (keepsKey_of_mem_ownKeys (mem_ownKeys_of_held h))]
  simp [h]

theorem lookup_cleanField_own (own : key ∈ kind.ownKeys)
    (notHeld : heldKey? kind entries ≠ some key) :
    (cleanField entries).lookup key = entries.lookup key := by
  rw [cleanField_of_kind hKind, lookup_cleanKeys, if_pos (keepsKey_of_mem_ownKeys own)]
  simp [notHeld]

theorem lookup_cleanField_type : (cleanField entries).lookup "type" = entries.lookup "type" := by
  have hNotHeld : heldKey? kind entries ≠ some "type" := by
    intro h
    have hOwn := mem_ownKeys_of_held h
    cases kind <;> simp [Kind.ownKeys] at hOwn
  rw [cleanField_of_kind hKind, lookup_cleanKeys]
  simp [keepsKey, Kind.allowsKey, hNotHeld]

theorem kind?_cleanField : kind? (cleanField entries) = some kind := by
  rw [kind?, lookup_cleanField_type hKind]
  exact hKind

theorem describesElement_cleanField : describesElement (cleanField entries) = true := by
  obtain ⟨name, hType, -⟩ := kind?_eq_some_iff.mp hKind
  exact describesElement_eq_true_iff.mpr ⟨name, (lookup_cleanField_type hKind).trans hType⟩

theorem checkKeys_cleanField (reading : Reading) :
    checkKeys reading kind (cleanField entries) = .ok () := by
  cases reading with
  | lenient => rfl
  | strict =>
    rw [checkKeys]
    split
    · next key v hFound =>
      have hMem := List.mem_of_find?_eq_some hFound
      rw [cleanField_of_kind hKind] at hMem
      have hAllowed := allowsKey_of_mem_cleanKeys entries hMem
      have hRefused := List.find?_some hFound
      dsimp only at hRefused
      rw [hAllowed] at hRefused
      cases hRefused
    · rfl

/-- A flag that is no boolean reads like no flag. -/
theorem readRequired_cleanField (reading : Reading) :
    readRequired reading (cleanField entries) = readRequired .lenient entries := by
  have hNotHeld : heldKey? kind entries ≠ some "required" := by
    intro h
    have hOwn := mem_ownKeys_of_held h
    cases kind <;> simp [Kind.ownKeys] at hOwn
  have hLookup : (cleanField entries).lookup "required" =
      if isFlagged entries then entries.lookup "required" else none := by
    rw [cleanField_of_kind hKind, lookup_cleanKeys]
    simp [keepsKey, Kind.allowsKey, hNotHeld]
  rw [readRequired.eq_def, readRequired.eq_def, hLookup, isFlagged]
  cases entries.lookup "required" with
  | none => cases reading <;> rfl
  | some v => cases v <;> cases reading <;> rfl

theorem nestedEntry?_cleanField (object : kind = .object) :
    nestedEntry? (cleanField entries) =
      ( nestedEntry? entries).map fun (key, raw) => (key, cleanHeld .object raw) := by
  subst object
  have hLookup (key : String) (own : key = "properties" ∨ key = "schema") :
      (cleanField entries).lookup key =
        (entries.lookup key).map
          (if heldKey? .object entries = some key then cleanHeld .object else id) := by
    have hOwn : key ∈ Kind.object.ownKeys := by simpa [Kind.ownKeys] using own
    split
    · next held => exact lookup_cleanField_held hKind held
    · next notHeld =>
      rw [lookup_cleanField_own hKind hOwn notHeld, Option.map_id, id]
  unfold nestedEntry?
  rw [hLookup _ (.inl rfl), hLookup _ (.inr rfl)]
  cases hProperties : entries.lookup "properties" with
  | some raw => simp [heldKey?, nestedEntry?, hProperties]
  | none =>
    cases hSchema : entries.lookup "schema" with
    | some raw => simp [heldKey?, nestedEntry?, hProperties, hSchema]
    | none => simp

end Fields

theorem readTextLimits_congr [Pattern.Engine] {entries' : Entries}
    (h : ∀ key ∈ Kind.string.ownKeys, entries'.lookup key = entries.lookup key) :
    readTextLimits entries' = readTextLimits entries := by
  simp only [readTextLimits, readPattern, readLength, h "pattern" (by decide),
    h "minLength" (by decide), h "maxLength" (by decide)]

theorem readBounds_congr {entries' : Entries}
    (h : ∀ key ∈ Kind.number.ownKeys, entries'.lookup key = entries.lookup key) :
    readBounds entries' = readBounds entries := by
  simp only [readBounds, readBound, h "minimum" (by decide), h "maximum" (by decide)]

theorem map_blame_eq_ok_iff {α β : Type} {path : List DefinitionStep} {x : Except Fault α}
    {f : α → β} {b : β} : (blame path x).map f = .ok b ↔ ∃ a, x = .ok a ∧ f a = b := by
  cases x <;> simp [blame, Except.map]

variable [Pattern.Engine]

/-- A kind that nests nothing is read by the keys of its own, wherever it is. -/
theorem readShape_congr_of_flat {entries' : Entries} {reading reading' : Reading}
    {path path' : List DefinitionStep} {read : Shape × List Skipped} (object : kind ≠ .object)
    (array : kind ≠ .array)
    (h : ∀ key ∈ kind.ownKeys, entries'.lookup key = entries.lookup key)
    (hRead : readShape reading path kind entries = .ok read) :
    readShape reading' path' kind entries' = .ok read := by
  cases kind <;> first | contradiction | rw [readShape] at hRead ⊢
  case string =>
    rw [map_blame_eq_ok_iff] at hRead ⊢
    rwa [readTextLimits_congr h]
  case number | double =>
    rw [map_blame_eq_ok_iff] at hRead ⊢
    rwa [readBounds_congr h]
  all_goals exact hRead

-- The reading and the path of the second reading are any, since a cleaned definition leaves
-- nothing over which readings differ and nothing to note.
mutual

theorem readFields_clean {reading : Reading} {path path' : List DefinitionStep}
    {noted : List Skipped} {s : Schema} : (entries : Entries) →
    (reading = .strict → Itemized entries) →
    readFields .lenient path entries = .ok (s, noted) →
    readFields reading path' (clean entries) = .ok (s, [])
  | [], _, h => by
    rw [readFields] at h
    cases h
    rw [clean, readFields]
  | (name, raw) :: rest, itemized, h => by
    obtain ⟨others, notedRest, hRest⟩ := exists_readFields_lenient path rest
    have itemizedRest (hStrict : reading = .strict) : Itemized rest := by
      obtain ⟨each⟩ := itemized hStrict
      exact ⟨fun n inner hMem => each n inner (List.mem_cons_of_mem _ hMem)⟩
    have ihRest : readFields reading path' (clean rest) = .ok (others, []) :=
      readFields_clean rest itemizedRest hRest
    rw [readFields, hRest] at h
    rw [clean]
    cases hEntry : readEntry .lenient (path ++ [.field name]) name raw with
    | error e =>
      have hLeft : keeps name raw = false := by
        rw [Bool.eq_false_iff, ne_eq, keeps_iff_readEntry (path ++ [.field name]), hEntry]
        nofun
      rw [hEntry] at h
      cases h
      rw [hLeft]
      exact ihRest
    | ok read =>
      obtain ⟨f, notedEntry⟩ := read
      have hKeeps : keeps name raw = true := (keeps_iff_readEntry _).mpr ⟨_, hEntry⟩
      have ihEntry : readEntry reading (path' ++ [.field name]) name (cleanEntry raw) =
          .ok (f, []) := by
        refine readEntry_clean raw (fun hStrict inner hRaw => ?_) hEntry
        subst hRaw
        obtain ⟨each⟩ := itemized hStrict
        exact each name inner List.mem_cons_self hKeeps
      rw [hEntry] at h
      cases h
      rw [hKeeps, cond_true, readFields, ihEntry, ihRest]
      rfl
termination_by entries => 3 * sizeOf entries

theorem readEntry_clean {reading : Reading} {path path' : List DefinitionStep}
    {noted : List Skipped} {name : String} {f : Field} : (raw : Value) →
    (reading = .strict → ∀ inner, raw = .object inner → ItemizedField inner) →
    readEntry .lenient path name raw = .ok (f, noted) →
    readEntry reading path' name (cleanEntry raw) = .ok (f, [])
  | raw, itemized, h => by
    obtain ⟨hName, entries, rfl, hRead⟩ := readEntry_eq_ok_iff.mp h
    have ih : readField reading path' (cleanField entries) = .ok (f, []) :=
      readField_clean entries (fun hStrict => itemized hStrict entries rfl) hRead
    rw [cleanEntry]
    exact readEntry_eq_ok_iff.mpr ⟨hName, _, rfl, ih⟩
termination_by raw => 3 * sizeOf raw

theorem readField_clean {reading : Reading} {path path' : List DefinitionStep}
    {noted : List Skipped} {f : Field} : (entries : Entries) →
    (reading = .strict → ItemizedField entries) →
    readField .lenient path entries = .ok (f, noted) →
    readField reading path' (cleanField entries) = .ok (f, [])
  | entries, itemized, h => by
    obtain ⟨kind, required, shape, hKind, -, hRequired, hShape, rfl⟩ := readField_eq_ok_iff.mp h
    have hKind? : kind? entries = some kind := readKind_eq_ok_iff.mp hKind
    have ih : readShape reading path' kind (cleanField entries) = .ok (shape, []) :=
      readShape_clean kind entries hKind? itemized hShape
    exact readField_eq_ok_iff.mpr ⟨kind, required, shape,
      readKind_eq_ok_iff.mpr (kind?_cleanField hKind?), checkKeys_cleanField hKind? reading,
      (readRequired_cleanField hKind? reading).trans hRequired, ih, rfl⟩
termination_by entries => 3 * sizeOf entries + 2

theorem readShape_clean {reading : Reading} {path path' : List DefinitionStep}
    {noted : List Skipped} {shape : Shape} : (kind : Kind) → (entries : Entries) →
    kind? entries = some kind → (reading = .strict → ItemizedField entries) →
    readShape .lenient path kind entries = .ok (shape, noted) →
    readShape reading path' kind (cleanField entries) = .ok (shape, [])
  | kind, entries, hKind, itemized, h => by
    cases kind with
    | object =>
      rw [readShape_object_eq_ok_iff, nestedEntry?_cleanField hKind rfl]
      rcases readShape_object_eq_ok_iff.mp h with ⟨hNested, rfl, -⟩ |
        ⟨key, inner, s, hNested, hRead, rfl⟩
      · exact .inl ⟨by rw [hNested]; rfl, rfl, rfl⟩
      · have hSize : 1 + sizeOf inner < sizeOf entries := by
          simpa using nestedEntry?_sizeOf hNested
        have itemizedInner (hStrict : reading = .strict) : Itemized inner := by
          obtain ⟨-, -, -, nested⟩ := itemized hStrict
          exact nested hKind key inner hNested
        have hHeld : cleanHeld .object (.object inner) = .object (clean inner) := by
          rw [cleanHeld]
          rfl
        refine .inr ⟨key, clean inner, s, ?_, readFields_clean inner itemizedInner hRead, rfl⟩
        simp only [hNested, Option.map_some, hHeld]
    | array =>
      have hLookup : (cleanField entries).lookup "items" =
          (entries.lookup "items").map (cleanHeld .array) := lookup_cleanField_held hKind rfl
      rw [readShape_array_eq_ok_iff, hLookup]
      rcases readShape_array_eq_ok_iff.mp h with ⟨hItems, -, rfl, -⟩ |
        ⟨raw, items, hItems, hRead, rfl⟩
      · have hLenient : reading = .lenient := by
          cases reading with
          | lenient => rfl
          | strict =>
            obtain ⟨present, -, -, -⟩ := itemized rfl
            obtain ⟨raw, hRaw⟩ := present hKind
            rw [hItems] at hRaw
            cases hRaw
        exact .inl ⟨by rw [hItems]; rfl, hLenient, rfl, rfl⟩
      · have hSize : sizeOf raw < sizeOf entries := Value.lookup_sizeOf hItems
        refine .inr ⟨cleanHeld .array raw, items, by rw [hItems]; rfl, ?_, rfl⟩
        refine readItems_clean raw (fun hStrict inner hRaw => ?_) hRead
        subst hRaw
        obtain ⟨-, element, elements, -⟩ := itemized hStrict
        exact ⟨element hKind inner hItems, elements hKind inner hItems⟩
    | _ =>
      all_goals
        obtain rfl := noted_of_flat (by simp) (by simp) h
        refine readShape_congr_of_flat (by simp) (by simp) (fun key own => ?_) h
        exact lookup_cleanField_own hKind own nofun
termination_by _ entries => 3 * sizeOf entries + 1

theorem readItems_clean {reading : Reading} {path path' : List DefinitionStep}
    {noted : List Skipped} {items : Items} : (raw : Value) →
    (reading = .strict → ∀ inner, raw = .object inner →
      (describesElement inner = true → ItemizedField inner) ∧
      (describesElement inner = false → Itemized inner)) →
    readItems .lenient path raw = .ok (items, noted) →
    readItems reading path' (cleanHeld .array raw) = .ok (items, [])
  | raw, itemized, h => by
    rw [readItems_eq_ok_iff]
    rcases readItems_eq_ok_iff.mp h with ⟨name, kind, rfl, hName, rfl, -⟩ |
      ⟨entries, f, rfl, hDescribes, hRead, rfl⟩ | ⟨entries, s, rfl, hDescribes, hRead, rfl⟩
    · rw [cleanHeld.eq_def]
      exact .inl ⟨name, kind, rfl, hName, rfl, rfl⟩
    · obtain ⟨kind, -, -, hKind, -⟩ := readField_eq_ok_iff.mp hRead
      have ih : readField reading (path' ++ [.items]) (cleanField entries) = .ok (f, []) :=
        readField_clean entries (fun hStrict => (itemized hStrict entries rfl).1 hDescribes) hRead
      rw [cleanHeld]
      simp only [hDescribes, decide_true, Bool.and_self, if_true]
      exact .inr (.inl ⟨_, f, rfl, describesElement_cleanField (readKind_eq_ok_iff.mp hKind), ih,
        rfl⟩)
    · have ih : readFields reading (path' ++ [.items]) (clean entries) = .ok (s, []) :=
        readFields_clean entries (fun hStrict => (itemized hStrict entries rfl).2 hDescribes) hRead
      rw [cleanHeld]
      simp only [hDescribes, Bool.and_false, Bool.false_eq_true, if_false]
      exact .inr (.inr ⟨_, s, rfl, describesElement_clean entries, ih, rfl⟩)
termination_by raw => 3 * sizeOf raw

end

/-- The field that an entry by itself is read as, if it is read. -/
def node? (name : String) (raw : Value) : Option Field :=
  match readEntry .lenient [] name raw with
  | .ok (field, _) => some field
  | .error _ => none

theorem node?_eq_none_iff {name : String} {raw : Value} :
    node? name raw = none ↔ entryBlockers name raw ≠ [] := by
  have hKeeps : keeps name raw = true ↔ entryBlockers name raw = [] := List.isEmpty_iff
  rw [ne_eq, ← hKeeps, keeps_iff_readEntry [], node?]
  cases readEntry .lenient [] name raw <;> simp

theorem node?_of_readEntry {path : List DefinitionStep} {noted : List Skipped} {name : String}
    {raw : Value} {f : Field} (h : readEntry .lenient path name raw = .ok (f, noted)) :
    node? name raw = some f := by
  have hKeeps : keeps name raw = true := (keeps_iff_readEntry path).mpr ⟨_, h⟩
  obtain ⟨⟨f', noted'⟩, hHere⟩ := (keeps_iff_readEntry []).mp hKeeps
  -- The cleaned entry is read alike wherever it is, so it links the two places.
  have hClean : readEntry .lenient [] name (cleanEntry raw) = .ok (f, []) :=
    readEntry_clean raw nofun h
  have hCleanHere : readEntry .lenient [] name (cleanEntry raw) = .ok (f', []) :=
    readEntry_clean raw nofun hHere
  rw [hCleanHere] at hClean
  cases hClean
  rw [node?, hHere]

/-- The fields of a lenient reading, each by its own entry and in the order of the entries. -/
theorem fields_readFields_lenient {path : List DefinitionStep} {noted : List Skipped} {s : Schema}
    (h : readFields .lenient path entries = .ok (s, noted)) :
    s.fields = entries.filterMap fun (name, raw) => (node? name raw).map (name, ·) := by
  induction entries generalizing s noted with
  | nil =>
    rw [readFields] at h
    cases h
    rfl
  | cons m rest ih =>
    obtain ⟨name, raw⟩ := m
    obtain ⟨others, notedRest, hRest⟩ := exists_readFields_lenient path rest
    have ihRest := ih hRest
    rw [readFields, hRest] at h
    rw [List.filterMap_cons, ← ihRest]
    cases hEntry : readEntry .lenient (path ++ [.field name]) name raw with
    | error e =>
      obtain ⟨m, hHead, -⟩ := blocker_of_readEntry_lenient hEntry
      have hNone : node? name raw = none :=
        node?_eq_none_iff.mpr (List.ne_nil_of_mem (List.mem_of_head? hHead))
      rw [hEntry] at h
      cases h
      simp only [hNone, Option.map_none]
    | ok read =>
      obtain ⟨f, notedEntry⟩ := read
      rw [hEntry] at h
      cases h
      simp only [node?_of_readEntry hEntry, Option.map_some]
      rfl

end Definition

open Definition in
/-- A stored definition is read as the schema of its cleaned form, whichever way that is read, if
every array that is kept says what its elements are. In any case a field comes from its own entry
alone, no reading gives up the definition as a whole, and the notes are one for each entry left out
of entries that are kept. -/
theorem Schema.ofStored_reads_cleaned [Pattern.Engine] (entries : Entries) :
    ∃ s, announceFields [] entries = (.ok s, leftOut entries) ∧
      ofStored (.object entries) = (s, (leftOut entries).map .skipped) ∧
      s.fields = entries.filterMap (fun (name, raw) => (node? name raw).map (name, ·)) ∧
      (∀ name raw, node? name raw = none ↔ entryBlockers name raw ≠ []) ∧
      (∀ others, clean others = clean entries → (ofStored (.object others)).1 = s) ∧
      ofStored (.object (clean entries)) = (s, []) ∧
      (Itemized entries → ofDefinition (.object (clean entries)) = .ok s) := by
  obtain ⟨s, hRead⟩ := readFields_lenient_notes_leftOut entries
  have hClean : readFields .lenient [] (clean entries) = .ok (s, []) :=
    readFields_clean entries nofun hRead
  refine ⟨s, ?_, ?_, fields_readFields_lenient hRead, fun _ _ => node?_eq_none_iff, ?_, ?_, ?_⟩
  · rw [announceFields_eq, hRead]
    rfl
  · simp only [ofStored, hRead]
  · intro others hOthers
    obtain ⟨s', noted, hRead'⟩ := exists_readFields_lenient [] others
    have hClean' : readFields .lenient [] (clean others) = .ok (s', []) :=
      readFields_clean others nofun hRead'
    rw [hOthers, hClean] at hClean'
    cases hClean'
    simp only [ofStored, hRead']
  · simp only [ofStored, hClean, List.map_nil]
  · intro itemized
    have hStrict : readFields .strict [] (clean entries) = .ok (s, []) :=
      readFields_clean entries (fun _ => itemized) hRead
    simp only [ofDefinition, hStrict]

open Definition in
/-- Entries are left out at two levels, one of them with what is inside, and a flag and a key are
passed over. -/
theorem Schema.ofStored_reads_cleaned_two_levels :
    let first : Value := .object [("type", .text "string"), ("required", .text "yes"),
      ("colour", .int 3)]
    let user : Value := .object [("type", .text "object"),
      ("properties", .object [("first", first), ("last", .int 1)])]
    let lost : Value := .object [("type", .text "array"),
      ("items", .object [("type", .text "string"), ("minLength", .int (-1))])]
    let tags : Value := .object [("type", .text "array"), ("items", .text "string")]
    let entries : Entries := [("user", user), ("lost", lost), ("tags", tags)]
    let cleaned : Entries := [("user", .object [("type", .text "object"),
      ("properties", .object [("first", .object [("type", .text "string")])])]), ("tags", tags)]
    Itemized entries ∧ clean entries = cleaned ∧
      leftOut entries =
        [⟨[.field "user", .field "last"], [.field "user", .field "last"], .notMapping⟩,
          ⟨[.field "lost"], [.field "lost", .items], .lengthNotNatural "minLength"⟩] ∧
      ofDefinition (.object cleaned) = .ok (ofStored (.object entries)).1 := by
  intro first user lost tags entries cleaned
  have hFirst : Itemized [("first", first), ("last", .int 1)] := by
    refine ⟨fun name inner hMem _ => ?_⟩
    obtain ⟨-, hInner⟩ : name = "first" ∧ inner = [("type", .text "string"),
        ("required", .text "yes"), ("colour", .int 3)] := by simpa [first] using hMem
    have hKind : kind? inner = some .string := by
      rw [hInner]
      decide +kernel
    refine itemizedField_of_not_array (by simp [hKind]) fun hObject => ?_
    rw [hKind] at hObject
    cases hObject
  have hUser : ItemizedField [("type", .text "object"),
      ("properties", .object [("first", first), ("last", .int 1)])] := by
    have hKind : kind? [("type", .text "object"),
        ("properties", .object [("first", first), ("last", .int 1)])] = some .object := by
      decide +kernel
    refine itemizedField_of_not_array (by simp [hKind]) fun _ key inner hNested => ?_
    cases hNested
    exact hFirst
  have hItemized : Itemized entries := by
    refine ⟨fun name inner hMem hKeeps => ?_⟩
    simp only [entries, List.mem_cons, Prod.mk.injEq, List.not_mem_nil, or_false] at hMem
    rcases hMem with ⟨rfl, hInner⟩ | ⟨rfl, hInner⟩ | ⟨rfl, hInner⟩
    · obtain rfl := Value.object.inj hInner
      exact hUser
    · have hLost : keeps "lost" lost = false := by decide +kernel
      rw [hInner, hLost] at hKeeps
      cases hKeeps
    · obtain rfl := Value.object.inj hInner
      refine ⟨fun _ => ⟨_, rfl⟩, ?_, ?_, ?_⟩
      · intro _ inner hItems
        cases hItems
      · intro _ inner hItems
        cases hItems
      · intro hObject
        cases hObject
  have hClean : clean entries = cleaned := by decide +kernel
  obtain ⟨s, -, hStored, -, -, -, -, hStrict⟩ := ofStored_reads_cleaned entries
  refine ⟨hItemized, hClean, ?_, ?_⟩
  · simp only [entries, user, lost, tags, first]
    decide +kernel
  · rw [← hClean, hStored]
    exact hStrict hItemized

end Intake
