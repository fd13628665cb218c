import Intake.Proofs.Samples
import Intake.Proofs.UnseenFields

/-! # Definitions that can be met

Whatever a definition is read as can be met, if it asks for no pattern: what a reading lets through
has bounds and lengths in order, different names and none that begins with a dollar.
-/

namespace Intake

namespace Definition

mutual

/-- No text is asked to match a pattern, at any level. -/
inductive Unpatterned : Entries → Prop where
  | mk {entries : Entries}
      (each : ∀ name inner, (name, .object inner) ∈ entries → UnpatternedField inner) :
      Unpatterned entries

inductive UnpatternedField : Entries → Prop where
  | mk {entries : Entries} (pattern : entries.lookup "pattern" = none)
      (nested : ∀ key inner, nestedEntry? entries = some (key, .object inner) → Unpatterned inner)
      (element : ∀ inner, entries.lookup "items" = some (.object inner) →
        describesElement inner = true → UnpatternedField inner)
      (elements : ∀ inner, entries.lookup "items" = some (.object inner) →
        describesElement inner = false → Unpatterned inner) : UnpatternedField entries

end

variable {entries : Entries} {key : String} {path : List DefinitionStep} {noted : List Skipped}

theorem unpatterned_cons_iff {name : String} {raw : Value} {rest : Entries} :
    Unpatterned ((name, raw) :: rest) ↔
      (∀ inner, raw = .object inner → UnpatternedField inner) ∧ Unpatterned rest := by
  constructor
  · rintro ⟨each⟩
    refine ⟨fun inner hRaw => each name inner (hRaw ▸ List.mem_cons_self), ⟨fun n inner hMem => ?_⟩⟩
    exact each n inner (List.mem_cons_of_mem _ hMem)
  · rintro ⟨hHead, ⟨each⟩⟩
    refine ⟨fun n inner hMem => ?_⟩
    rcases List.mem_cons.mp hMem with hEq | hMem
    · exact hHead inner (Prod.mk.inj hEq).2.symm
    · exact each n inner hMem

theorem crossed_eq_false_iff {α : Type} {lt : α → α → Bool} {least most : Option α} :
    crossed lt least most = false ↔
      ∀ a b, least = some a → most = some b → lt b a = false := by
  cases least <;> cases most <;> simp [crossed]

theorem ordered_of_readTextLimits [Pattern.Engine] {limits : TextLimits}
    (h : readTextLimits entries = .ok limits) : limits.Ordered := by
  obtain ⟨pattern, -, h⟩ := bind_eq_ok_iff.mp h
  obtain ⟨least, -, h⟩ := bind_eq_ok_iff.mp h
  obtain ⟨most, -, h⟩ := bind_eq_ok_iff.mp h
  split at h
  · cases h
  · next hOrder =>
    cases h
    intro a b ha hb
    simpa using crossed_eq_false_iff.mp (Bool.eq_false_iff.mpr hOrder) a b ha hb

theorem pattern_of_readTextLimits [Pattern.Engine] {limits : TextLimits}
    (h : readTextLimits entries = .ok limits) (unused : entries.lookup "pattern" = none) :
    limits.pattern = none := by
  obtain ⟨pattern, hPattern, h⟩ := bind_eq_ok_iff.mp h
  obtain ⟨least, -, h⟩ := bind_eq_ok_iff.mp h
  obtain ⟨most, -, h⟩ := bind_eq_ok_iff.mp h
  rw [readPattern, unused] at hPattern
  cases hPattern
  split at h <;> cases h
  rfl

theorem isFieldName_of_checkName {name : String} (h : checkName name = .ok ()) :
    IsFieldName name := by
  rwa [checkName_eq_firstOf, firstOf_eq_ok_iff, nameFaults_eq_nil_iff] at h

theorem isFinite_of_readBound {b : Double} (h : readBound entries key = .ok (some b)) :
    b.isFinite = true := by
  unfold readBound at h
  split at h
  · cases h
  · next n _ =>
    cases h
    exact Double.isFinite_ofInt (Double.natAbs_toInt_lt n)
  · split at h
    · next hFinite =>
      cases h
      exact hFinite
    · cases h
  · cases h

theorem ordered_of_readBounds {bounds : Bounds} (h : readBounds entries = .ok bounds) :
    bounds.Ordered := by
  obtain ⟨least, hLeast, h⟩ := bind_eq_ok_iff.mp h
  obtain ⟨most, hMost, h⟩ := bind_eq_ok_iff.mp h
  split at h
  · cases h
  · next hOrder =>
    cases h
    constructor
    · rintro b (rfl | rfl)
      · exact isFinite_of_readBound hLeast
      · exact isFinite_of_readBound hMost
    · exact crossed_eq_false_iff.mp (Bool.eq_false_iff.mpr hOrder)

end Definition

namespace Demand

variable {free : Prop} {shape : Shape}

/-- What can be met, and without a pattern if none is used. -/
structure Fits (free : Prop) (d : Demand) : Prop where
  feasible : d.Feasible
  patternless : free → d.Patternless

theorem fits_shape (texts : shape.textLimits.Ordered)
    (patternless : free → shape.textLimits.pattern = none) (numbers : shape.bounds.Ordered)
    (named : ∀ s, shape.nested? = some s → s.Named) : Fits free (.shape shape) := by
  refine ⟨⟨?_, ?_, named⟩, ?_⟩
  · rintro _ ⟨⟩
    exact texts
  · rintro _ ⟨⟩
    exact numbers
  · rintro hFree _ ⟨⟩
    exact patternless hFree

theorem fits_kind (k : Kind) : Throughout (Fits free) (.kind k) :=
  .of_parts ⟨⟨nofun, nofun, nofun⟩, nofun⟩ nofun nofun

/-- A shape that sets no limits fits if what it goes into does. -/
theorem fits_unlimited (texts : shape.textLimits = {}) (numbers : shape.bounds = {})
    (nested : ∀ s, shape.nested? = some s →
      s.Named ∧ ∀ m ∈ s.fields, Throughout (Fits free) (.shape m.2.shape))
    (items : ∀ items, shape.items? = some items → Throughout (Fits free) (.ofItems items)) :
    Throughout (Fits free) (.shape shape) := by
  refine .of_parts (fits_shape ?_ ?_ ?_ fun s hs => (nested s hs).1) ?_ items
  · rw [texts]
    nofun
  · intro
    rw [texts]
  · rw [numbers]
    exact ⟨nofun, nofun⟩
  · exact fun s name f hs hMem => (nested s hs).2 (name, f) hMem

theorem fits_schema {s : Schema} (named : s.Named)
    (each : ∀ m ∈ s.fields, Throughout (Fits free) (.shape m.2.shape)) :
    Throughout (Fits free) (.schema s) := by
  refine .of_parts ⟨⟨nofun, nofun, ?_⟩, nofun⟩ ?_ nofun
  · rintro _ ⟨⟩
    exact named
  · rintro _ name f ⟨⟩ hMem
    exact each (name, f) hMem

theorem fits_empty : Throughout (Fits free) (.schema .empty) :=
  fits_schema ⟨List.nodup_nil, List.forall_mem_nil _⟩ (List.forall_mem_nil _)

end Demand

namespace Definition

variable {free : Prop}

variable [Pattern.Engine]

-- By the recursion of the reader. A field that is left out leaves the others as they are, and no
-- key stands twice, so that the names of the fields are different.
mutual

theorem fits_readFields {path : List DefinitionStep} {noted : List Skipped} {s : Schema} :
    (entries : Entries) → (Value.object entries).KeysDistinct → (free → Unpatterned entries) →
    readFields .lenient path entries = .ok (s, noted) →
    s.Named ∧ ∀ m ∈ s.fields, Demand.Throughout (Demand.Fits free) (.shape m.2.shape)
  | [], _, _, h => by
    rw [readFields] at h
    cases h
    exact ⟨⟨.nil, nofun⟩, nofun⟩
  | (name, raw) :: rest, distinct, unpatterned, h => by
    obtain ⟨hFresh, -⟩ := List.nodup_cons.mp (distinct _ .here)
    obtain ⟨others, notedRest, hRest⟩ := exists_readFields_lenient path rest
    obtain ⟨hNamed, hEach⟩ := fits_readFields rest distinct.tail
      (fun hFree => (unpatterned_cons_iff.mp (unpatterned hFree)).2) hRest
    rw [readFields, hRest] at h
    cases hEntry : readEntry .lenient (path ++ [.field name]) name raw with
    | error e =>
      rw [hEntry] at h
      cases h
      exact ⟨hNamed, hEach⟩
    | ok read =>
      obtain ⟨f, notedEntry⟩ := read
      obtain ⟨hName, inner, rfl, hField⟩ := readEntry_eq_ok_iff.mp hEntry
      rw [hEntry] at h
      cases h
      have hHead := fits_readField inner (distinct.member List.mem_cons_self)
        (fun hFree => (unpatterned_cons_iff.mp (unpatterned hFree)).1 inner rfl) hField
      have hOthers : name ∉ others.fields.map Prod.fst := by
        intro hMem
        obtain ⟨⟨_, g⟩, hDeclared, rfl⟩ := List.mem_map.mp hMem
        exact hFresh (mem_keys_of_mem_fields hRest hDeclared)
      refine ⟨⟨List.nodup_cons.mpr ⟨hOthers, hNamed.distinct⟩, ?_⟩, ?_⟩
      · exact List.forall_mem_cons.mpr ⟨(isFieldName_of_checkName hName).noDollar, hNamed.noDollar⟩
      · exact List.forall_mem_cons.mpr ⟨hHead, hEach⟩
termination_by entries => 3 * sizeOf entries

theorem fits_readField {path : List DefinitionStep} {noted : List Skipped} {f : Field} :
    (entries : Entries) → (Value.object entries).KeysDistinct → (free → UnpatternedField entries) →
    readField .lenient path entries = .ok (f, noted) →
    Demand.Throughout (Demand.Fits free) (.shape f.shape)
  | entries, distinct, unpatterned, h => by
    obtain ⟨kind, required, shape, -, -, -, hShape, rfl⟩ := readField_eq_ok_iff.mp h
    exact fits_readShape kind entries distinct unpatterned hShape
termination_by entries => 3 * sizeOf entries + 2

theorem fits_readShape {path : List DefinitionStep} {noted : List Skipped} {shape : Shape} :
    (kind : Kind) → (entries : Entries) → (Value.object entries).KeysDistinct →
    (free → UnpatternedField entries) →
    readShape .lenient path kind entries = .ok (shape, noted) →
    Demand.Throughout (Demand.Fits free) (.shape shape)
  | kind, entries, distinct, unpatterned, h => by
    cases kind with
    | object =>
      rcases readShape_object_eq_ok_iff.mp h with ⟨-, rfl, -⟩ |
        ⟨key, inner, s, hNested, hRead, rfl⟩
      · exact Demand.fits_unlimited rfl rfl nofun nofun
      · have hSize : 1 + sizeOf inner < sizeOf entries := by
          simpa using nestedEntry?_sizeOf hNested
        have hInner : free → Unpatterned inner := by
          intro hFree
          obtain ⟨-, nested, -, -⟩ := unpatterned hFree
          exact nested key inner hNested
        refine Demand.fits_unlimited rfl rfl ?_ nofun
        rintro _ ⟨⟩
        exact fits_readFields inner (distinct.nested hNested) hInner hRead
    | array =>
      rcases readShape_array_eq_ok_iff.mp h with ⟨-, -, rfl, -⟩ | ⟨raw, items, hItems, hRead, rfl⟩
      · exact Demand.fits_unlimited rfl rfl nofun nofun
      · have hSize : sizeOf raw < sizeOf entries := Value.lookup_sizeOf hItems
        refine Demand.fits_unlimited rfl rfl nofun ?_
        rintro _ ⟨⟩
        refine fits_readItems raw (distinct.lookup hItems) ?_ ?_ hRead
        · rintro inner rfl hDescribes hFree
          obtain ⟨-, -, element, -⟩ := unpatterned hFree
          exact element inner hItems hDescribes
        · rintro inner rfl hDescribes hFree
          obtain ⟨-, -, -, elements⟩ := unpatterned hFree
          exact elements inner hItems hDescribes
    | string =>
      rw [readShape] at h
      obtain ⟨limits, hLimits, hEq⟩ := map_blame_eq_ok_iff.mp h
      cases hEq
      have hOrdered : limits.Ordered := ordered_of_readTextLimits hLimits
      refine .of_parts (Demand.fits_shape hOrdered ?_ ⟨nofun, nofun⟩ nofun) nofun nofun
      intro hFree
      obtain ⟨pattern, -, -, -⟩ := unpatterned hFree
      exact pattern_of_readTextLimits hLimits pattern
    | number | double =>
      rw [readShape] at h
      obtain ⟨bounds, hBounds, hEq⟩ := map_blame_eq_ok_iff.mp h
      cases hEq
      exact .of_parts (Demand.fits_shape nofun (fun _ => rfl) (ordered_of_readBounds hBounds) nofun)
        nofun nofun
    | _ =>
      all_goals
        rw [readShape] at h
        cases h
        exact Demand.fits_unlimited rfl rfl nofun nofun
termination_by _ entries => 3 * sizeOf entries + 1

theorem fits_readItems {path : List DefinitionStep} {noted : List Skipped} {items : Items} :
    (raw : Value) → raw.KeysDistinct →
    (∀ inner, raw = .object inner → describesElement inner = true → free →
      UnpatternedField inner) →
    (∀ inner, raw = .object inner → describesElement inner = false → free → Unpatterned inner) →
    readItems .lenient path raw = .ok (items, noted) →
    Demand.Throughout (Demand.Fits free) (.ofItems items)
  | raw, distinct, element, elements, h => by
    rcases readItems_eq_ok_iff.mp h with ⟨-, k, -, -, rfl, -⟩ |
      ⟨entries, f, rfl, hDescribes, hRead, rfl⟩ | ⟨entries, s, rfl, hDescribes, hRead, rfl⟩
    · exact Demand.fits_kind k
    · exact fits_readField entries distinct (element entries rfl hDescribes) hRead
    · obtain ⟨hNamed, hEach⟩ :=
        fits_readFields entries distinct (elements entries rfl hDescribes) hRead
      exact Demand.fits_schema hNamed hEach
termination_by raw => 3 * sizeOf raw

end

end Definition

namespace Schema

def PatternFree (s : Schema) : Prop := Demand.Throughout Demand.Patternless (.schema s)

/-- A document whose data passes, whether undeclared keys are let pass or not, with a value for
every declared field. -/
def Satisfiable (s : Schema) : Prop :=
  ∃ j : Json, j.Whole ∧ (∀ rules, s.validate rules (.ofJson j) = .ok ()) ∧ s.FilledBy (.ofJson j)

section Readings

variable [Pattern.Engine]

theorem fits_ofStored {free : Prop} {definition : Value} (distinct : definition.KeysDistinct)
    (unpatterned : ∀ entries, definition = .object entries → free →
      Definition.Unpatterned entries) :
    Demand.Throughout (Demand.Fits free) (.schema (ofStored definition).1) := by
  cases definition with
  | object entries =>
    obtain ⟨s, noted, hRead⟩ := Definition.exists_readFields_lenient [] entries
    obtain ⟨hNamed, hEach⟩ :=
      Definition.fits_readFields entries distinct (unpatterned entries rfl) hRead
    simp only [ofStored, hRead]
    exact Demand.fits_schema hNamed hEach
  | _ => exact Demand.fits_empty

theorem patternFree_ofStored {entries : Definition.Entries}
    (distinct : (Value.object entries).KeysDistinct)
    (unpatterned : Definition.Unpatterned entries) :
    (ofStored (.object entries)).1.PatternFree := by
  have hFits : Demand.Throughout (Demand.Fits True) (.schema (ofStored (.object entries)).1) := by
    refine fits_ofStored distinct ?_
    rintro _ ⟨⟩ -
    exact unpatterned
  exact fun e hInside => (hFits e hInside).patternless trivial

/-- A definition that is accepted can be met if it uses no pattern, and so can what a stored
definition is read as, if that has no pattern, whatever was left out. -/
theorem satisfiable_of_definition {definition : Value} (distinct : definition.KeysDistinct) :
    (∀ entries s, definition = .object entries → Definition.Unpatterned entries →
      ofDefinition definition = .ok s → s.Satisfiable) ∧
    ((ofStored definition).1.PatternFree → (ofStored definition).1.Satisfiable) := by
  have hStored (patternFree : (ofStored definition).1.PatternFree) :
      (ofStored definition).1.Satisfiable := by
    have hFits : Demand.Throughout (Demand.Fits False) (.schema (ofStored definition).1) :=
      fits_ofStored distinct fun _ _ => False.elim
    exact ⟨_, sample_satisfies (fun e hInside => (hFits e hInside).feasible) patternFree⟩
  refine ⟨?_, hStored⟩
  rintro entries s rfl unpatterned accepted
  have hSame : (ofStored (.object entries)).1 = s :=
    congrArg Prod.fst (ofStored_of_ofDefinition accepted)
  exact hSame ▸ hStored (patternFree_ofStored distinct unpatterned)

end Readings

open Definition in
/-- A field is called like the key of patterns. In the stored definition an entry is left out. -/
theorem satisfiable_of_definition_homes :
    let name : Entries := [("type", .text "string"), ("minLength", .int 2)]
    let since : Entries := [("type", .text "date"), ("required", .bool true)]
    let homes : Entries := [("type", .text "array"), ("items", .object [("since", .object since)])]
    let entries : Entries := [("pattern", .object name), ("homes", .object homes)]
    let stored : Entries := ("$home", .null) :: entries
    let home : Schema := .mk [("since", .mk true .date)]
    let schema : Schema := .mk [("pattern", .mk false (.text { minLength := some 2 })),
      ("homes", .mk false (.array (some (.schema home))))]
    (Value.object stored).KeysDistinct ∧ Unpatterned stored ∧
      ofDefinition (.object entries) = .ok schema ∧ schema.Satisfiable ∧
      (ofStored (.object stored)).2 =
        [.skipped ⟨[.field "$home"], ⟨[.field "$home"], .dollarName⟩⟩] ∧
      (ofStored (.object stored)).1.Satisfiable := by
  intro name since homes entries stored home schema
  have hText (s : String) : (Value.text s).KeysDistinct := nofun
  have hBool (b : Bool) : (Value.bool b).KeysDistinct := nofun
  have hInt (n : Int64) : (Value.int n).KeysDistinct := nofun
  have hNull : Value.null.KeysDistinct := nofun
  have hDistinct : (Value.object stored).KeysDistinct := by
    simp [stored, entries, homes, since, name, Value.keysDistinct_object_iff, hText, hBool, hInt,
      hNull]
  have hEmpty : Unpatterned [] := ⟨nofun⟩
  have hHomesUnpatterned : UnpatternedField homes := by
    refine ⟨rfl, nofun, ?_, ?_⟩
    · rintro _ ⟨⟩ hDescribes
      cases hDescribes
    · rintro _ ⟨⟩ -
      refine unpatterned_cons_iff.mpr ⟨?_, hEmpty⟩
      rintro _ ⟨⟩
      exact ⟨rfl, nofun, nofun, nofun⟩
  have hUnpatterned : Unpatterned entries := by
    refine unpatterned_cons_iff.mpr ⟨?_, unpatterned_cons_iff.mpr ⟨?_, hEmpty⟩⟩
    · rintro _ ⟨⟩
      exact ⟨rfl, nofun, nofun, nofun⟩
    · rintro _ ⟨⟩
      exact hHomesUnpatterned
  have hStoredUnpatterned : Unpatterned stored := unpatterned_cons_iff.mpr ⟨nofun, hUnpatterned⟩
  have hNil (path : List DefinitionStep) : readFields .strict path [] = .ok (.empty, []) := by
    rw [readFields]
  have hName (path : List DefinitionStep) :
      readField .strict path name = .ok (.mk false (.text { minLength := some 2 }), []) := by
    refine readField_eq_ok_iff.mpr ⟨.string, false, _, rfl, rfl, rfl, ?_, rfl⟩
    rw [readShape]
    rfl
  have hSince (path : List DefinitionStep) :
      readField .strict path since = .ok (.mk true .date, []) := by
    refine readField_eq_ok_iff.mpr ⟨.date, true, _, rfl, rfl, rfl, ?_, rfl⟩
    rw [readShape]
  have hHomes (path : List DefinitionStep) :
      readField .strict path homes = .ok (.mk false (.array (some (.schema home))), []) := by
    refine readField_strict_array (readItems_eq_ok_iff.mpr (.inr (.inr ⟨_, _, rfl, rfl, ?_, rfl⟩)))
    exact readFields_strict_cons rfl (hSince _) (hNil _)
  have hRead : readFields .strict [] entries = .ok (schema, []) :=
    readFields_strict_cons rfl (hName _) (readFields_strict_cons rfl (hHomes _) (hNil _))
  have hAccepted : ofDefinition (.object entries) = .ok schema :=
    ofDefinition_eq_ok_iff.mpr ⟨[], hRead⟩
  have hHome : readEntry .lenient [.field "$home"] "$home" .null =
      .error ⟨[.field "$home"], .dollarName⟩ := by
    unfold readEntry
    rfl
  have hStored : ofStored (.object stored) =
      (schema, [.skipped ⟨[.field "$home"], ⟨[.field "$home"], .dollarName⟩⟩]) := by
    obtain ⟨-, hLenient⟩ := readFields_lenient entries hRead
    have hBoth : readFields .lenient [] stored =
        .ok (schema, [⟨[.field "$home"], ⟨[.field "$home"], .dollarName⟩⟩]) := by
      rw [readFields, List.nil_append, hHome, hLenient]
    rw [ofStored, hBoth]
    rfl
  obtain ⟨hStrict, -⟩ := satisfiable_of_definition hDistinct.tail
  obtain ⟨-, hLenient⟩ := satisfiable_of_definition hDistinct
  exact ⟨hDistinct, hStoredUnpatterned, hAccepted,
    hStrict entries schema rfl hUnpatterned hAccepted, congrArg Prod.snd hStored,
    hLenient (patternFree_ofStored hDistinct hStoredUnpatterned)⟩

end Schema

end Intake
