import Intake.Proofs.Grammar
import Mathlib.Control.Monad.Basic

/-! # The first offence of a definition

A strict reading fails exactly with the first offence of a definition, and where there is none it
succeeds. The place of the offence is reported as a path of names with points between them.
-/

namespace Intake

namespace Definition

variable {entries : Entries} {kind : Kind} {key : String} {path : List DefinitionStep}

theorem checkName_eq_firstOf (name : String) : checkName name = firstOf (nameFaults name) := by
  unfold checkName nameFaults
  split
  · rfl
  · split
    · rfl
    · split <;> rfl

theorem readKind_eq_ok_iff : readKind entries = .ok kind ↔ kind? entries = some kind := by
  unfold readKind kind?
  cases entries.lookup "type" with
  | none => simp
  | some v =>
    cases v with
    | text name => cases h : Kind.ofName? name <;> simp [h]
    | _ => simp

theorem settled_readKind : settled (readKind entries) = firstOf (kindFaults entries) := by
  unfold readKind kindFaults
  cases entries.lookup "type" with
  | none => rfl
  | some v =>
    cases v with
    | text name => cases h : Kind.ofName? name <;> simp [h, settled, firstOf, Except.map]
    | _ => rfl

theorem checkKeys_eq_firstOf :
    checkKeys .strict kind entries = firstOf (keyFaults kind entries) := by
  unfold checkKeys keyFaults
  dsimp only
  rw [← List.head?_filter]
  split
  · next hHead =>
    obtain ⟨others, hRefused⟩ := List.head?_eq_some_iff.mp hHead
    rw [hRefused]
    rfl
  · next hHead =>
    rw [List.head?_eq_none_iff.mp hHead]
    rfl

theorem settled_readRequired :
    settled (readRequired .strict entries) = firstOf (requiredFaults entries) := by
  unfold readRequired requiredFaults
  cases entries.lookup "required" with
  | none => rfl
  | some v => cases v <;> rfl

theorem settled_readPattern [Pattern.Engine] :
    settled (readPattern entries) = firstOf (patternFaults entries) := by
  unfold readPattern patternFaults
  cases entries.lookup "pattern" with
  | none => rfl
  | some v =>
    cases v with
    | text source => cases h : Pattern.ofSource? source <;> simp [h, settled, firstOf, Except.map]
    | _ => rfl

theorem settled_readLength :
    settled (readLength entries key) = firstOf (lengthFaults entries key) := by
  unfold readLength lengthFaults
  cases entries.lookup key with
  | none => rfl
  | some v =>
    cases v with
    | int n => by_cases h : 0 ≤ n.toInt <;> simp [h, settled, firstOf, Except.map]
    | _ => rfl

theorem settled_readBound :
    settled (readBound entries key) = firstOf (boundFaults entries key) := by
  unfold readBound boundFaults
  cases entries.lookup key with
  | none => rfl
  | some v =>
    cases v with
    | int n =>
      have hFinite : (Double.ofInt n.toInt).isFinite = true :=
        Double.isFinite_ofInt (Double.natAbs_toInt_lt n)
      simp [Value.number?, hFinite, settled, firstOf, Except.map]
    | float x =>
      by_cases h : x.isFinite = true <;> simp [Value.number?, h, settled, firstOf, Except.map]
    | _ => rfl

theorem length?_of_readLength {r : Option Nat} (h : readLength entries key = .ok r) :
    length? entries key = r.map Int.ofNat := by
  unfold readLength at h
  unfold length?
  split at h
  · next hNone =>
    cases h
    rw [hNone]
    rfl
  · next n hInt =>
    split at h
    · next hNonneg =>
      cases h
      rw [hInt]
      exact congrArg some (Int.toNat_of_nonneg hNonneg).symm
    · cases h
  · cases h

theorem bound?_of_readBound {r : Option Double} (h : readBound entries key = .ok r) :
    bound? entries key = r := by
  unfold readBound at h
  unfold bound?
  split at h
  · next hNone =>
    cases h
    rw [hNone]
    rfl
  · next n hInt =>
    cases h
    rw [hInt]
    rfl
  · next x hFloat =>
    split at h
    · cases h
      rw [hFloat]
      rfl
    · cases h
  · cases h

theorem settled_readTextLimits [Pattern.Engine] :
    settled (readTextLimits entries) = firstOf (textFaults entries) := by
  unfold readTextLimits textFaults
  rw [firstOf_append, firstOf_append, firstOf_append, ← settled_readPattern, ← settled_readLength,
    ← settled_readLength]
  cases readPattern entries with
  | error e => rfl
  | ok pattern =>
    cases hLeast : readLength entries "minLength" with
    | error e => rfl
    | ok least =>
      cases hMost : readLength entries "maxLength" with
      | error e => rfl
      | ok most =>
        have hFaults : firstOf (lengthsCrossedFaults entries) =
            if crossed (fun a b => decide (a < b)) least most then .error .lengthsCrossed
            else .ok () := by
          unfold lengthsCrossedFaults crossed
          rw [length?_of_readLength hLeast, length?_of_readLength hMost]
          cases least with
          | none => rfl
          | some a =>
            cases most with
            | none => rfl
            | some b => by_cases h : b < a <;> simp [h, firstOf]
        change settled (if _ then _ else _) = firstOf (lengthsCrossedFaults entries)
        rw [hFaults]
        split <;> rfl

theorem settled_readBounds :
    settled (readBounds entries) = firstOf (numberFaults entries) := by
  unfold readBounds numberFaults
  rw [firstOf_append, firstOf_append, ← settled_readBound, ← settled_readBound]
  cases hLeast : readBound entries "minimum" with
  | error e => rfl
  | ok least =>
    cases hMost : readBound entries "maximum" with
    | error e => rfl
    | ok most =>
      have hFaults : firstOf (boundsCrossedFaults entries) =
          if crossed Double.lt least most then .error .boundsCrossed else .ok () := by
        unfold boundsCrossedFaults crossed
        rw [bound?_of_readBound hLeast, bound?_of_readBound hMost]
        cases least with
        | none => rfl
        | some a =>
          cases most with
          | none => rfl
          | some b => by_cases h : b.lt a = true <;> simp [h, firstOf]
      change settled (if _ then _ else _) = firstOf (boundsCrossedFaults entries)
      rw [hFaults]
      split <;> rfl

theorem blame_firstOf (faults : List Fault) :
    blame path (firstOf faults) = firstOf (faultsAt path faults) := by
  cases faults <;> rfl

theorem settled_blame {α : Type} (r : Except Fault α) :
    settled (blame path r) = blame path (settled r) := by
  cases r <;> rfl

section Offences

variable [Pattern.Engine]

/-- A kind that nests nothing is read by its limits. -/
theorem settled_readShape_of_flat (object : kind ≠ .object) (array : kind ≠ .array) :
    settled (readShape .strict path kind entries) =
      firstOf (faultsAt path (limitFaults kind entries)) := by
  cases kind <;> first | contradiction | rw [readShape]
  case string =>
    rw [settled_map, settled_blame, settled_readTextLimits, blame_firstOf]
    rfl
  case number | double =>
    rw [settled_map, settled_blame, settled_readBounds, blame_firstOf]
    rfl
  all_goals rfl

theorem settled_readField_of_kind (h : kind? entries = some kind) :
    settled (readField .strict path entries) = (do
      firstOf (faultsAt path (keyFaults kind entries))
      firstOf (faultsAt path (requiredFaults entries))
      settled (readShape .strict path kind entries)) := by
  rw [readField, readKind_eq_ok_iff.mpr h]
  simp only [blame]
  rw [← blame_firstOf, ← blame_firstOf, ← checkKeys_eq_firstOf, ← settled_readRequired]
  cases checkKeys .strict kind entries with
  | error e => rfl
  | ok =>
    cases readRequired .strict entries with
    | error e => rfl
    | ok required => cases readShape .strict path kind entries <;> rfl

theorem readShape_object (reading : Reading) (entries : Entries) :
    readShape reading path .object entries =
      match nestedEntry? entries with
      | none => .ok (.object none, [])
      | some (_, .object inner) =>
        (readFields reading path inner).map fun (schema, noted) => (.object (some schema), noted)
      | some (key, _) => .error ⟨path, .nestedNotMapping key⟩ := by
  rw [readShape]
  split <;> simp_all

theorem readShape_array_strict (entries : Entries) :
    readShape .strict path .array entries =
      match entries.lookup "items" with
      | none => .error ⟨path, .itemsMissing⟩
      | some raw =>
        (readItems .strict path raw).map fun (items, noted) => (.array (some items), noted) := by
  rw [readShape]
  split <;> next hItems => simp only [hItems]

-- An entry is checked before what it holds, and what it holds before the entries behind it, as the
-- offences are listed.
mutual

theorem settled_readFields (path : List DefinitionStep) :
    (entries : Entries) →
    settled (readFields .strict path entries) = firstOf (offences path entries)
  | [] => by
    rw [readFields, offences]
    rfl
  | (name, raw) :: rest => by
    have hEntry := settled_readEntry (path ++ [.field name]) name raw
    have hRest := settled_readFields path rest
    rw [readFields, offences, firstOf_append, ← hEntry, ← hRest]
    cases readEntry .strict (path ++ [.field name]) name raw with
    | error e => rfl
    | ok field => cases readFields .strict path rest <;> rfl
termination_by entries => 3 * sizeOf entries

theorem settled_readEntry (path : List DefinitionStep) (name : String) (raw : Value) :
    settled (readEntry .strict path name raw) = firstOf (entryOffences path name raw) := by
  unfold readEntry entryOffences
  rw [firstOf_append, ← blame_firstOf, ← checkName_eq_firstOf]
  cases checkName name with
  | error e => rfl
  | ok =>
    cases raw with
    | object entries => exact settled_readField path entries
    | _ => rfl
termination_by 3 * sizeOf raw

theorem settled_readField (path : List DefinitionStep) (entries : Entries) :
    settled (readField .strict path entries) = firstOf (fieldOffences path entries) := by
  rw [fieldOffences]
  cases hKind : kind? entries with
  | none =>
    have hFaults : settled (readKind entries) = firstOf (kindFaults entries) := settled_readKind
    dsimp only
    rw [← blame_firstOf, ← hFaults, readField]
    cases hRead : readKind entries with
    | error e => rfl
    | ok kind =>
      rw [readKind_eq_ok_iff.mp hRead] at hKind
      cases hKind
  | some kind =>
    have hShape := settled_readShape path kind entries
    dsimp only
    rw [settled_readField_of_kind hKind, firstOf_append, firstOf_append, hShape]
termination_by 3 * sizeOf entries + 2

theorem settled_readShape (path : List DefinitionStep) (kind : Kind) (entries : Entries) :
    settled (readShape .strict path kind entries) =
      firstOf (faultsAt path (limitFaults kind entries) ++ innerOffences path kind entries) := by
  cases kind with
  | object =>
    rw [readShape_object, innerOffences_object]
    cases hNested : nestedEntry? entries with
    | none => rfl
    | some found =>
      obtain ⟨key, raw⟩ := found
      cases raw with
      | object inner =>
        have hSize : 1 + sizeOf inner < sizeOf entries := by
          simpa using nestedEntry?_sizeOf hNested
        dsimp only
        rw [settled_map, settled_readFields path inner]
        rfl
      | _ => rfl
  | array =>
    rw [readShape_array_strict, innerOffences_array]
    cases hItems : entries.lookup "items" with
    | none => rfl
    | some raw =>
      have hSize : sizeOf raw < sizeOf entries := Value.lookup_sizeOf hItems
      dsimp only
      rw [settled_map, settled_readItems path raw]
      rfl
  | _ =>
    all_goals
      rw [settled_readShape_of_flat (by simp) (by simp),
        innerOffences_of_flat (by simp) (by simp), List.append_nil]
termination_by 3 * sizeOf entries + 1

theorem settled_readItems (path : List DefinitionStep) (raw : Value) :
    settled (readItems .strict path raw) = firstOf (itemsOffences path raw) := by
  unfold readItems itemsOffences
  cases raw with
  | text name =>
    cases h : Kind.ofName? name <;> simp [h, settled, faultsAt, firstOf, Except.map]
  | object entries =>
    dsimp only
    split
    · rw [settled_map, settled_readField]
    · rw [settled_map, settled_readFields]
  | _ => rfl
termination_by 3 * sizeOf raw

end

end Offences

/-- The parts of a path: a name with brackets for the items that follow it. -/
def segments (current : String) : List DefinitionStep → List String
  | [] => [current]
  | .items :: rest => segments (current ++ "[]") rest
  | .field name :: rest => current :: segments name rest

/-- The parts of a path with points between them. -/
def dotted : List DefinitionStep → String
  | [] => ""
  | .field name :: rest => ".".intercalate (segments name rest)
  | .items :: rest => ".".intercalate (segments "[]" rest)

theorem segments_ne_nil (current : String) (path : List DefinitionStep) :
    segments current path ≠ [] := by
  induction path generalizing current with
  | nil => exact List.cons_ne_nil _ _
  | cons step rest ih =>
    cases step with
    | field name => exact List.cons_ne_nil _ _
    | items => exact ih _

theorem foldl_next_append (front current : String) (path : List DefinitionStep) :
    path.foldl DefinitionStep.pathText.next (front ++ current) =
      front ++ path.foldl DefinitionStep.pathText.next current := by
  induction path generalizing current with
  | nil => rfl
  | cons step rest ih =>
    have hStep : DefinitionStep.pathText.next (front ++ current) step =
        front ++ DefinitionStep.pathText.next current step := by
      cases step <;> simp [DefinitionStep.pathText.next, String.append_assoc]
    rw [List.foldl_cons, List.foldl_cons, hStep, ih]

theorem foldl_next_eq (current : String) (path : List DefinitionStep) :
    path.foldl DefinitionStep.pathText.next current = ".".intercalate (segments current path) := by
  induction path generalizing current with
  | nil => rfl
  | cons step rest ih =>
    cases step with
    | items => exact ih _
    | field name =>
      rw [segments, String.intercalate_cons_of_ne_nil (segments_ne_nil _ _), ← ih, List.foldl_cons,
        DefinitionStep.pathText.next, foldl_next_append]

theorem pathText_eq_dotted (path : List DefinitionStep) :
    DefinitionStep.pathText path = dotted path := by
  cases path with
  | nil => rfl
  | cons step rest => cases step <;> exact foldl_next_eq _ _

end Definition

/-- A definition is accepted exactly if it is a mapping of well-formed entries. A mapping that is
refused is refused for the first of its offences, and the error names the path of that entry. -/
theorem Schema.ofDefinition_blames_first_offence [Pattern.Engine] (definition : Value) :
    ((∃ s, ofDefinition definition = .ok s) ↔
      ∃ entries, definition = .object entries ∧ Definition.WellFormed entries) ∧
    ∀ entries e, definition = .object entries → ofDefinition definition = .error e →
      ∃ m, (Definition.offences [] entries).head? = some m ∧ e = .malformed m ∧
        e.field? = some (Definition.dotted m.path) := by
  have hVerdict (entries : Definition.Entries) : settled (ofDefinition (.object entries)) =
      (firstOf (Definition.offences [] entries)).mapError .malformed := by
    rw [← Definition.settled_readFields, ofDefinition]
    cases Definition.readFields .strict [] entries <;> rfl
  constructor
  · constructor
    · rintro ⟨s, h⟩
      cases definition with
      | object entries =>
        refine ⟨entries, rfl, (Definition.offences_eq_nil_iff [] entries).mp ?_⟩
        have hOk : settled (ofDefinition (.object entries)) = .ok () :=
          settled_eq_ok_iff.mpr ⟨s, h⟩
        rw [hVerdict] at hOk
        cases hOffences : Definition.offences [] entries with
        | nil => rfl
        | cons m rest =>
          rw [hOffences] at hOk
          cases hOk
      | _ => cases h
    · rintro ⟨entries, rfl, wellFormed⟩
      rw [← settled_eq_ok_iff, hVerdict, (Definition.offences_eq_nil_iff [] entries).mpr wellFormed]
      rfl
  · rintro entries e rfl h
    have hError : settled (ofDefinition (.object entries)) = .error e :=
      settled_eq_error_iff.mpr h
    rw [hVerdict] at hError
    cases hOffences : Definition.offences [] entries with
    | nil =>
      rw [hOffences] at hError
      cases hError
    | cons m rest =>
      rw [hOffences] at hError
      cases hError
      exact ⟨m, rfl, rfl, congrArg some (Definition.pathText_eq_dotted m.path)⟩

/-- A name with a point stands inside the elements of an array, behind an entry that is right and
before one that is not. -/
theorem Schema.ofDefinition_blames_dotted_name :
    let element : Value := .object [("type", .text "object"),
      ("properties", .object [("a.b", .object [("type", .text "string")]), ("$c", .null)])]
    let entries : Definition.Entries := [("name", .object [("type", .text "string")]),
      ("tags", .object [("type", .text "array"), ("items", element)]), ("z", .int 1)]
    let m : Malformed := ⟨[.field "tags", .items, .field "a.b"], .dottedName⟩
    ofDefinition (.object entries) = .error (.malformed m) ∧
      (Definition.offences [] entries).head? = some m ∧
      (DefinitionError.malformed m).field? = some "tags[].a.b" := by
  intro element entries m
  have hRefused : ofDefinition (.object entries) = .error (.malformed m) := by decide +kernel
  obtain ⟨-, hFirst⟩ := ofDefinition_blames_first_offence (.object entries)
  obtain ⟨m', hHead, hEq, hField⟩ := hFirst entries _ rfl hRefused
  cases hEq
  exact ⟨hRefused, hHead, hField⟩

end Intake
