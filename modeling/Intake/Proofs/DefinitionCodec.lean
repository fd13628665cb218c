import Intake.Proofs.Cleaning
import Intake.Proofs.DocumentCodec
import Intake.Proofs.RecordText

/-! # Definitions read back from documents

A definition that is accepted is read as the same schema once it has been written and read again.
Dates in it may come back as something else, but only where no reading looks.
-/

namespace Intake

namespace Value

/-- A value that is written and read again. -/
def reread (v : Value) : Value := ofJson v.toJson

theorem reread_int (n : Int64) : (int n).reread = int n := by
  have hLower : -2 ^ 63 ≤ n.toInt := n.le_toInt
  have hUpper : n.toInt < 2 ^ 63 := n.toInt_lt
  rw [reread, toJson, ofJson, ofInteger, if_pos ⟨hLower, hUpper⟩, Int64.ofInt_toInt]

theorem reread_float {x : Double} (finite : x.isFinite = true) : (float x).reread = float x := by
  rw [reread, toJson, if_pos finite, ofJson]

/-- Members that could be the entries of a definition are not taken for a wrapper. -/
theorem reread_object {members : List (String × Value)}
    (plain : ∀ m ∈ members, m.1.toList.head? ≠ some '$') :
    (object members).reread = object (members.map fun m => (m.1, m.2.reread)) := by
  have hPlain : wrapped? (members.map fun m => (m.1, m.2.toJson)) = none := by
    refine wrapped?_of_noDollar fun m hMem => ?_
    obtain ⟨old, hOld, rfl⟩ := List.mem_map.mp hMem
    exact plain old hOld
  rw [reread, toJson, toJsonMembers_eq_map, ofJson_obj_of_plain hPlain, List.map_map]
  rfl

theorem toJson_eq_str {v : Value} {s : String} (h : v.toJson = .str s) : v = text s := by
  cases v with
  | text s' =>
    cases h
    rfl
  | float x =>
    rw [toJson] at h
    split at h <;> cases h
  | _ => cases h

theorem ofJson_eq_text {j : Json} {s : String} (h : ofJson j = text s) : j = .str s := by
  cases j with
  | str s' =>
    cases h
    rfl
  | int n =>
    rw [ofJson, ofInteger] at h
    split at h <;> cases h
  | obj members =>
    cases hWrapped : wrapped? members with
    | none =>
      rw [ofJson_obj_of_plain hWrapped] at h
      cases h
    | some native =>
      rw [ofJson_obj_of_wrapped hWrapped] at h
      rcases native_of_wrapped? hWrapped with ⟨t, rfl, -⟩ | ⟨t, rfl⟩
      · cases h
      · cases h
  | _ => cases h

/-- Nothing but a text comes back as a text. -/
theorem reread_eq_text_iff {v : Value} {s : String} : v.reread = text s ↔ v = text s := by
  constructor
  · intro h
    exact toJson_eq_str (ofJson_eq_text h)
  · rintro rfl
    rfl

end Value

namespace Definition

variable {entries : Entries} {kind : Kind} {key : String} {path : List DefinitionStep}
  {noted : List Skipped}

/-- Entries whose values are written and read again. -/
def reread (entries : Entries) : Entries := entries.map fun m => (m.1, m.2.reread)

theorem lookup_reread (entries : Entries) :
    (reread entries).lookup key = (entries.lookup key).map Value.reread :=
  lookup_map_values Value.reread entries

theorem lookup_reread_eq_text_iff {name : String} :
    (reread entries).lookup key = some (.text name) ↔ entries.lookup key = some (.text name) := by
  rw [lookup_reread]
  cases entries.lookup key with
  | none => simp
  | some v => simp [Value.reread_eq_text_iff]

theorem lookup_reread_of_stable (stable : ∀ v, entries.lookup key = some v → v.reread = v) :
    (reread entries).lookup key = entries.lookup key := by
  rw [lookup_reread]
  cases hLookup : entries.lookup key with
  | none => rfl
  | some v => exact congrArg some (stable v hLookup)

theorem describesElement_reread : describesElement (reread entries) = describesElement entries := by
  rw [Bool.eq_iff_iff, describesElement_eq_true_iff, describesElement_eq_true_iff]
  exact exists_congr fun _ => lookup_reread_eq_text_iff

theorem readKind_reread (h : readKind entries = .ok kind) :
    readKind (reread entries) = .ok kind := by
  rw [readKind_eq_ok_iff, kind?_eq_some_iff] at h ⊢
  obtain ⟨name, hType, hName⟩ := h
  exact ⟨name, lookup_reread_eq_text_iff.mpr hType, hName⟩

theorem checkKeys_reread (h : checkKeys .strict kind entries = .ok ()) :
    checkKeys .strict kind (reread entries) = .ok () := by
  rw [checkKeys_strict_eq_ok_iff] at h ⊢
  intro m hMem
  obtain ⟨old, hOld, rfl⟩ := List.mem_map.mp hMem
  exact h old hOld

theorem readRequired_reread {required : Bool} (h : readRequired .strict entries = .ok required) :
    readRequired .strict (reread entries) = .ok required := by
  have hStable : (reread entries).lookup "required" = entries.lookup "required" := by
    apply lookup_reread_of_stable
    intro v hLookup
    rw [readRequired.eq_def, hLookup] at h
    cases v with
    | bool b => rfl
    | _ => cases h
  rw [readRequired.eq_def, hStable, ← readRequired.eq_def]
  exact h

theorem head?_of_allowsKey (h : kind.allowsKey key = true) : key.toList.head? ≠ some '$' := by
  have hKeys : ∀ key ∈ ["type", "required", "description"] ++ kind.ownKeys,
      key.toList.head? ≠ some '$' := by
    cases kind <;> decide
  apply hKeys
  simpa [Kind.allowsKey, or_assoc] using h

section Keys

variable [Pattern.Engine]

/-- The keys of a field that is accepted are not those of a wrapper. -/
theorem reread_object_of_field {f : Field} (h : readField .strict path entries = .ok (f, noted)) :
    (Value.object entries).reread = .object (reread entries) := by
  obtain ⟨kind, -, -, -, hKeys, -⟩ := readField_eq_ok_iff.mp h
  apply Value.reread_object
  intro m hMem
  exact head?_of_allowsKey (checkKeys_strict_eq_ok_iff.mp hKeys m hMem)

theorem isFieldName_of_readFields {s : Schema}
    (h : readFields .strict path entries = .ok (s, noted)) : ∀ m ∈ entries, IsFieldName m.1 := by
  have hNone : offences path entries = [] := by
    rw [← firstOf_eq_ok_iff, ← settled_readFields, settled_eq_ok_iff]
    exact ⟨_, h⟩
  obtain ⟨each⟩ := (offences_eq_nil_iff path entries).mp hNone
  rintro ⟨name, raw⟩ hMem
  cases each name raw hMem with
  | mk named _ => exact named

/-- The names of fields that are accepted are not those of a wrapper. -/
theorem reread_object_of_fields {s : Schema}
    (h : readFields .strict path entries = .ok (s, noted)) :
    (Value.object entries).reread = .object (reread entries) := by
  apply Value.reread_object
  intro m hMem
  exact (isFieldName_of_readFields h m hMem).noDollar

end Keys

theorem reread_eq_self_of_number {v : Value} {x : Double} (h : v.number? = some x)
    (finite : x.isFinite = true) : v.reread = v := by
  cases v with
  | int n => exact Value.reread_int n
  | float y =>
    cases h
    exact Value.reread_float finite
  | _ => cases h

/-- What a kind of its own reads, if it nests nothing, comes back as it was. -/
theorem lookup_reread_own [Pattern.Engine] {shape : Shape} (object : kind ≠ .object)
    (array : kind ≠ .array) (h : readShape .strict path kind entries = .ok (shape, noted)) :
    ∀ key ∈ kind.ownKeys, (reread entries).lookup key = entries.lookup key := by
  have hNone : limitFaults kind entries = [] := by
    have hSettled := settled_eq_ok_iff.mpr ⟨_, h⟩
    rw [settled_readShape_of_flat object array, firstOf_eq_ok_iff] at hSettled
    exact List.map_eq_nil_iff.mp hSettled
  obtain ⟨hTexts, hNumbers⟩ := limitFaults_eq_nil_iff.mp hNone
  intro key hOwn
  apply lookup_reread_of_stable
  intro v hLookup
  cases kind
  case string =>
    have hLimits := hTexts rfl
    simp only [Kind.ownKeys, List.mem_cons, List.not_mem_nil, or_false] at hOwn
    rcases hOwn with rfl | hLength
    · obtain ⟨source, -, rfl, -⟩ := hLimits.pattern v hLookup
      rfl
    · obtain ⟨n, rfl, -⟩ := hLimits.length key hLength v hLookup
      exact Value.reread_int n
  case number | double =>
    have hLimits := hNumbers (by simp)
    simp only [Kind.ownKeys, List.mem_cons, List.not_mem_nil, or_false] at hOwn
    obtain ⟨x, hNumber, hFinite⟩ := hLimits.finite key hOwn v hLookup
    exact reread_eq_self_of_number hNumber hFinite
  case object => exact absurd rfl object
  case array => exact absurd rfl array
  all_goals cases hOwn

theorem nestedEntry?_reread (entries : Entries) :
    nestedEntry? (reread entries) = ( nestedEntry? entries).map fun m => (m.1, m.2.reread) := by
  unfold nestedEntry?
  rw [lookup_reread, lookup_reread]
  cases entries.lookup "properties" with
  | some raw => rfl
  | none =>
    cases entries.lookup "schema" with
    | some raw => rfl
    | none => rfl

variable [Pattern.Engine]

-- By the recursion of the reader: what it looks into is an object without the keys of a wrapper,
-- and what it takes as it is comes back as it was.
mutual

theorem readFields_reread {path : List DefinitionStep} {noted : List Skipped} {s : Schema} :
    (entries : Entries) → readFields .strict path entries = .ok (s, noted) →
    readFields .strict path (reread entries) = .ok (s, noted)
  | [], h => h
  | (name, raw) :: rest, h => by
    obtain ⟨f, n, others, n', hEntry, hRest, rfl, rfl⟩ := readFields_cons_strict_eq_ok_iff.mp h
    have ihEntry := readEntry_reread raw hEntry
    have ihRest := readFields_reread rest hRest
    rw [reread, List.map_cons]
    exact readFields_cons_strict_eq_ok_iff.mpr ⟨f, n, others, n', ihEntry, ihRest, rfl, rfl⟩
termination_by entries => 3 * sizeOf entries

theorem readEntry_reread {path : List DefinitionStep} {noted : List Skipped} {name : String}
    {f : Field} : (raw : Value) → readEntry .strict path name raw = .ok (f, noted) →
    readEntry .strict path name raw.reread = .ok (f, noted)
  | raw, h => by
    obtain ⟨hName, entries, rfl, hRead⟩ := readEntry_eq_ok_iff.mp h
    have ih := readField_reread entries hRead
    rw [reread_object_of_field hRead]
    exact readEntry_eq_ok_iff.mpr ⟨hName, _, rfl, ih⟩
termination_by raw => 3 * sizeOf raw

theorem readField_reread {path : List DefinitionStep} {noted : List Skipped} {f : Field} :
    (entries : Entries) → readField .strict path entries = .ok (f, noted) →
    readField .strict path (reread entries) = .ok (f, noted)
  | entries, h => by
    obtain ⟨kind, required, shape, hKind, hKeys, hRequired, hShape, rfl⟩ :=
      readField_eq_ok_iff.mp h
    have ih := readShape_reread kind entries hShape
    exact readField_eq_ok_iff.mpr ⟨kind, required, shape, readKind_reread hKind,
      checkKeys_reread hKeys, readRequired_reread hRequired, ih, rfl⟩
termination_by entries => 3 * sizeOf entries + 2

theorem readShape_reread {path : List DefinitionStep} {noted : List Skipped} {shape : Shape} :
    (kind : Kind) → (entries : Entries) →
    readShape .strict path kind entries = .ok (shape, noted) →
    readShape .strict path kind (reread entries) = .ok (shape, noted)
  | kind, entries, h => by
    cases kind with
    | object =>
      rw [readShape_object_eq_ok_iff, nestedEntry?_reread]
      rcases readShape_object_eq_ok_iff.mp h with ⟨hNested, rfl, rfl⟩ |
        ⟨key, inner, s, hNested, hRead, rfl⟩
      · exact .inl ⟨by rw [hNested]; rfl, rfl, rfl⟩
      · have hSize : 1 + sizeOf inner < sizeOf entries := by
          simpa using nestedEntry?_sizeOf hNested
        have ih := readFields_reread inner hRead
        refine .inr ⟨key, reread inner, s, ?_, ih, rfl⟩
        rw [hNested, Option.map_some, reread_object_of_fields hRead]
    | array =>
      rw [readShape_array_eq_ok_iff, lookup_reread]
      rcases readShape_array_eq_ok_iff.mp h with ⟨-, hLenient, -, -⟩ |
        ⟨raw, items, hItems, hRead, rfl⟩
      · cases hLenient
      · have hSize : sizeOf raw < sizeOf entries := Value.lookup_sizeOf hItems
        have ih := readItems_reread raw hRead
        exact .inr ⟨raw.reread, items, by rw [hItems]; rfl, ih, rfl⟩
    | _ =>
      all_goals
        exact readShape_congr_of_flat (by simp) (by simp)
          (lookup_reread_own (by simp) (by simp) h) h
termination_by _ entries => 3 * sizeOf entries + 1

theorem readItems_reread {path : List DefinitionStep} {noted : List Skipped} {items : Items} :
    (raw : Value) → readItems .strict path raw = .ok (items, noted) →
    readItems .strict path raw.reread = .ok (items, noted)
  | raw, h => by
    rcases readItems_eq_ok_iff.mp h with ⟨name, kind, rfl, -⟩ |
      ⟨entries, f, rfl, hDescribes, hRead, rfl⟩ | ⟨entries, s, rfl, hDescribes, hRead, rfl⟩
    · exact h
    · have ih := readField_reread entries hRead
      rw [reread_object_of_field hRead]
      exact readItems_eq_ok_iff.mpr (.inr (.inl
        ⟨_, f, rfl, describesElement_reread.trans hDescribes, ih, rfl⟩))
    · have ih := readFields_reread entries hRead
      rw [reread_object_of_fields hRead]
      exact readItems_eq_ok_iff.mpr (.inr (.inr
        ⟨_, s, rfl, describesElement_reread.trans hDescribes, ih, rfl⟩))
termination_by raw => 3 * sizeOf raw

end

end Definition

theorem Schema.ofDefinition_reread [Pattern.Engine] {definition : Value} {s : Schema}
    (h : ofDefinition definition = .ok s) : ofDefinition definition.reread = .ok s := by
  cases definition with
  | object entries =>
    obtain ⟨noted, hRead⟩ := ofDefinition_eq_ok_iff.mp h
    rw [Definition.reread_object_of_fields hRead]
    exact ofDefinition_eq_ok_iff.mpr ⟨noted, Definition.readFields_reread entries hRead⟩
  | _ => cases h

/-- A definition that is accepted is still accepted after it has been written and read again, and it
is read as the same schema both ways, with nothing left out, whatever has become of dates in
descriptions or under a key that `properties` hides. This is about documents. Their texts keep most
doubles but not all, so the file of a product gives its definition back if the doubles in it are
among those that last: a bound of many digits may drift. -/
theorem Schema.ofDefinition_read_back [Pattern.Engine] {definition : Value} {s : Schema}
    (accepted : ofDefinition definition = .ok s) :
    let again := Value.ofJson definition.toJson
    ofDefinition again = .ok s ∧ ofStored again = (s, []) ∧
      ∀ p : Product, p.Sourced → p.schema = definition → definition.DoublesLast →
        Record.read (Record.fileText p) = .ok { p with schema := again } := by
  intro again
  have hAgain : ofDefinition again = .ok s := ofDefinition_reread accepted
  refine ⟨hAgain, ofStored_of_ofDefinition hAgain, ?_⟩
  rintro p sourced rfl doubles
  rw [Product.read_fileText sourced, Product.filed, Value.filed,
    sourced.schema.reparsed_toJson doubles]

/-- The first instant of the year 10000 stands in a description and under a key that is hidden. -/
theorem Schema.ofDefinition_read_back_year_10000 :
    let late : Json := .obj [("$date", .int 253402300800000)]
    let field : Json := .obj [("type", .str "object"), ("description", late),
      ("properties", .obj []), ("schema", late)]
    let definition := Value.ofJson (.obj [("home", field)])
    let s : Schema := .mk [("home", .mk false (.object (some .empty)))]
    let again := Value.ofJson definition.toJson
    let p : Product := ⟨"p", "Loans", "", definition, ⟨0, 0⟩, ⟨0, 0⟩⟩
    ofDefinition definition = .ok s ∧ again ≠ definition ∧ ofDefinition again = .ok s ∧
      ofStored again = (s, []) ∧ p.Sourced ∧ definition.DoublesLast ∧
      Record.read (Record.fileText p) = .ok { p with schema := again } := by
  intro late field definition s again p
  have hAccepted : ofDefinition definition = .ok s := by decide +kernel
  have hLate : late.IsDocument :=
    .obj (List.forall_mem_singleton.mpr (.int (by decide) (by decide)))
  have hDocument : (Json.obj [("home", field)]).IsDocument := by
    refine .obj (List.forall_mem_singleton.mpr (.obj ?_))
    simp only [List.forall_mem_cons]
    exact ⟨.str _, hLate, .obj (List.forall_mem_nil _), hLate, List.forall_mem_nil _⟩
  have hRegular : (Json.obj [("home", field)]).Regular (Json.deepest - 1) := by
    have hLateRegular (depth : Nat) : late.Regular (depth + 1) :=
      .obj (List.forall_mem_singleton.mpr (.int _)) (List.nodup_singleton _)
    refine .obj (List.forall_mem_singleton.mpr (.obj ?_ (by decide))) (List.nodup_singleton _)
    simp only [List.forall_mem_cons]
    exact ⟨.str _, hLateRegular _, .obj (List.forall_mem_nil _) List.nodup_nil, hLateRegular _,
      List.forall_mem_nil _⟩
  have hChanged : again ≠ definition := by
    intro hSame
    have hDate : definition.HasDate ⟨253402300800, 0⟩ := by
      apply Value.hasDate_object_iff.mpr
      refine ⟨_, List.mem_singleton_self _, Value.hasDate_object_iff.mpr ?_⟩
      exact ⟨_, List.mem_cons_of_mem _ List.mem_cons_self, .here⟩
    have hYear := ((Value.returns_ofJson hDocument).read_iff.mp hSame _ hDate).2
    revert hYear
    decide
  have hSourced : p.Sourced :=
    ⟨⟨_, ⟨hDocument, hRegular⟩, rfl⟩, Instant.isLegal_of_inRange (by decide),
      Instant.isLegal_of_inRange (by decide)⟩
  have hDoubles : definition.DoublesLast := by
    refine Value.doublesLast_object (List.forall_mem_singleton.mpr (Value.doublesLast_object ?_))
    simp only [Value.ofJsonMembers, List.forall_mem_cons]
    refine ⟨?_, ?_, Value.doublesLast_object (List.forall_mem_nil _), ?_, List.forall_mem_nil _⟩ <;>
      rintro x ⟨⟩
  obtain ⟨hAgain, hStored, hFile⟩ := ofDefinition_read_back hAccepted
  exact ⟨hAccepted, hChanged, hAgain, hStored, hSourced, hDoubles, hFile p hSourced rfl hDoubles⟩

end Intake
