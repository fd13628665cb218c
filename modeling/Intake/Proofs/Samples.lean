import Intake.Proofs.DocumentReading
import Intake.Proofs.DocumentCodec
import Intake.Proofs.FirstViolation

/-! # Samples of schemas

A document is built along a schema, with a value for every field and an element for every array
whose elements have to be something. It is what the schema asks for, as long as no pattern is asked,
no bound lies beyond the other and no name could be that of a wrapper.
-/

namespace Intake

def Kind.sample : Kind → Json
  | .string => .str ""
  | .number | .double => .float .zero
  | .boolean => .bool true
  | .array => .arr []
  | .object => .obj []
  | .null => .null
  | .date => .str "1970-01-01"
  | .timestamp => .int 0

/-- The shortest text that is long enough. -/
def TextLimits.sample (limits : TextLimits) : String :=
  String.ofList (List.replicate (limits.minLength.getD 0) 'a')

def Bounds.sample (bounds : Bounds) : Double :=
  (bounds.minimum <|> bounds.maximum).getD .zero

mutual

def Shape.sample : Shape → Json
  | .text limits => .str limits.sample
  | .number bounds => .float bounds.sample
  | .double bounds => .float bounds.sample
  | .array (some items) => .arr [items.sample]
  | .object (some schema) => .obj schema.sample
  | .boolean => Kind.boolean.sample
  | .array none => Kind.array.sample
  | .object none => Kind.object.sample
  | .null => Kind.null.sample
  | .date => Kind.date.sample
  | .timestamp => Kind.timestamp.sample

def Items.sample : Items → Json
  | .kind kind => kind.sample
  | .field (.mk _ shape) => shape.sample
  | .schema schema => .obj schema.sample

def Schema.sample : Schema → List (String × Json)
  | .mk fields => Field.samples fields

def Field.samples : List (String × Field) → List (String × Json)
  | [] => []
  | (name, .mk _ shape) :: rest => (name, shape.sample) :: Field.samples rest

end

theorem Field.samples_eq_map (fields : List (String × Field)) :
    Field.samples fields = fields.map fun m => (m.1, m.2.shape.sample) := by
  induction fields with
  | nil => rfl
  | cons m rest ih =>
    obtain ⟨name, required, shape⟩ := m
    exact congrArg ((name, shape.sample) :: ·) ih

theorem Schema.sample_eq_map (s : Schema) :
    s.sample = s.fields.map fun m => (m.1, m.2.shape.sample) := by
  obtain ⟨fields⟩ := s
  exact Field.samples_eq_map fields

def TextLimits.Ordered (limits : TextLimits) : Prop :=
  ∀ least most, limits.minLength = some least → limits.maxLength = some most → least ≤ most

structure Bounds.Ordered (bounds : Bounds) : Prop where
  finite : ∀ b, bounds.minimum = some b ∨ bounds.maximum = some b → b.isFinite = true
  ordered : ∀ least most, bounds.minimum = some least → bounds.maximum = some most →
    most.lt least = false

/-- The names of fields are different, and none could be that of a wrapper. -/
structure Schema.Named (s : Schema) : Prop where
  distinct : (s.fields.map Prod.fst).Nodup
  noDollar : ∀ m ∈ s.fields, m.1.toList.head? ≠ some '$'

namespace Demand

/-- One demand is part of another, at any depth. -/
inductive Inside (e : Demand) : Demand → Prop where
  | here : Inside e e
  | field {d : Demand} {s : Schema} {name : String} {f : Field} (follows : d.schema? = some s)
    (declared : (name, f) ∈ s.fields) (h : Inside e (.shape f.shape)) : Inside e d
  | items {d : Demand} {items : Items} (follows : d.items? = some items)
    (h : Inside e (.ofItems items)) : Inside e d

/-- What can be met as long as nothing below asks for too much. -/
structure Feasible (d : Demand) : Prop where
  texts : ∀ shape, d = .shape shape → shape.textLimits.Ordered
  numbers : ∀ shape, d = .shape shape → shape.bounds.Ordered
  named : ∀ s, d.schema? = some s → s.Named

def Patternless (d : Demand) : Prop := ∀ shape, d = .shape shape → shape.textLimits.pattern = none

def Throughout (P : Demand → Prop) (d : Demand) : Prop := ∀ e, Inside e d → P e

def sample : Demand → Json
  | .kind k => k.sample
  | .shape s => s.sample
  | .schema s => .obj s.sample

theorem sample_ofItems (items : Items) : (ofItems items).sample = items.sample := by
  cases items with
  | kind | schema => rfl
  | field f =>
    obtain ⟨required, shape⟩ := f
    rfl

variable {d e : Demand} {P : Demand → Prop}

theorem Throughout.here (h : Throughout P d) : P d := h d .here

theorem Throughout.field {s : Schema} {name : String} {f : Field} (h : Throughout P d)
    (follows : d.schema? = some s) (declared : (name, f) ∈ s.fields) :
    Throughout P (.shape f.shape) :=
  fun e hInside => h e (.field follows declared hInside)

theorem Throughout.items {items : Items} (h : Throughout P d) (follows : d.items? = some items) :
    Throughout P (.ofItems items) :=
  fun e hInside => h e (.items follows hInside)

theorem Throughout.of_parts (here : P d)
    (field : ∀ s name f, d.schema? = some s → (name, f) ∈ s.fields → Throughout P (.shape f.shape))
    (items : ∀ items, d.items? = some items → Throughout P (.ofItems items)) :
    Throughout P d := by
  intro e hInside
  cases hInside with
  | here => exact here
  | field follows declared h => exact field _ _ _ follows declared e h
  | items follows h => exact items _ follows e h

theorem sample_of_schema {s : Schema} (follows : d.schema? = some s) :
    d.sample = .obj s.sample := by
  cases d with
  | kind => cases follows
  | schema =>
    cases follows
    rfl
  | shape shape =>
    cases shape with
    | object nested =>
      cases follows
      rfl
    | _ => cases follows

theorem sample_of_items {items : Items} (follows : d.items? = some items) :
    d.sample = .arr [items.sample] := by
  cases d with
  | kind | schema => cases follows
  | shape shape =>
    cases shape with
    | array =>
      cases follows
      rfl
    | _ => cases follows

open Value in
theorem ofJson_sample_of_schema {s : Schema} (follows : d.schema? = some s) (named : s.Named) :
    ofJson d.sample = .object (s.fields.map fun m => (m.1, ofJson m.2.shape.sample)) := by
  have hPlain : wrapped? s.sample = none := by
    refine wrapped?_of_noDollar fun m hMem => ?_
    rw [Schema.sample_eq_map] at hMem
    obtain ⟨field, hField, rfl⟩ := List.mem_map.mp hMem
    exact named.noDollar field hField
  rw [sample_of_schema follows, ofJson_obj_of_plain hPlain, Schema.sample_eq_map, List.map_map]
  rfl

/-- A path through the sample leads to the sample of what is asked there. -/
theorem leads_sample {v w : Value} {path : List DataStep} (leads : Leads d v path e w)
    (named : Throughout (fun e => ∀ s, e.schema? = some s → s.Named) d)
    (start : v = .ofJson d.sample) : w = .ofJson e.sample ∧ Inside e d := by
  induction leads with
  | here => exact ⟨start, .here⟩
  | @field d e s name f members v w path follows declared present _ ih =>
    have hNamed := named.here s follows
    rw [ofJson_sample_of_schema follows hNamed] at start
    cases start
    rw [lookup_map_values fun f : Field => Value.ofJson f.shape.sample,
      lookup_eq_some_of_mem hNamed.distinct declared] at present
    obtain ⟨hSample, hInside⟩ := ih (named.field follows declared) (Option.some.inj present).symm
    exact ⟨hSample, .field follows declared hInside⟩
  | @index d e items i vs v w path follows present _ ih =>
    rw [sample_of_items follows, Value.ofJson, Value.ofItems_eq_map] at start
    cases start
    rw [List.map_singleton, ← sample_ofItems] at present
    have hSame := List.mem_singleton.mp (List.mem_of_getElem? present)
    obtain ⟨hSample, hInside⟩ := ih (named.items follows) hSame
    exact ⟨hSample, .items follows hInside⟩

end Demand

theorem Double.not_lt_self (x : Double) : ¬x.lt x = true := by
  simp [lt]

theorem Kind.admits_sample (k : Kind) : k.Admits (.ofJson k.sample) := by
  cases k with
  | string => exact ⟨_, .text _⟩
  | number => exact ⟨_, .number _⟩
  | double => exact ⟨_, .double _⟩
  | boolean => exact ⟨_, .boolean _⟩
  | array => exact ⟨_, .array _⟩
  | object => exact ⟨_, .object _⟩
  | null => exact ⟨_, .null⟩
  | date => exact ⟨_, .dateText (t := ⟨0, 0⟩) (by decide)⟩
  | timestamp => exact ⟨_, .integerSeconds _⟩

namespace Demand

variable {e : Demand} {shape : Shape} {v : Value} {l : Limit}

theorem admits_sample (named : ∀ s, e.schema? = some s → s.Named) :
    e.expected.Admits (.ofJson e.sample) := by
  cases e with
  | kind k => exact k.admits_sample
  | schema s =>
    rw [ofJson_sample_of_schema rfl (named s rfl)]
    exact ⟨_, .object _⟩
  | shape shape =>
    cases shape with
    | text limits => exact ⟨_, .text _⟩
    | number bounds => exact ⟨_, .number _⟩
    | double bounds => exact ⟨_, .double _⟩
    | array items =>
      cases items with
      | none => exact Kind.admits_sample .array
      | some items => exact ⟨_, .array _⟩
    | object nested =>
      cases nested with
      | none => exact Kind.admits_sample .object
      | some s =>
        rw [ofJson_sample_of_schema rfl (named s rfl)]
        exact ⟨_, .object _⟩
    | boolean | null | date | timestamp => exact Kind.admits_sample _

theorem not_breaks_of_unlimited (texts : shape.textLimits = {}) (numbers : shape.bounds = {}) :
    ¬Breaks shape v l := by
  intro h
  cases h with
  | pattern set | minLength set | maxLength set =>
    rw [texts] at set
    cases set
  | minimum _ set | maximum _ set =>
    rw [numbers] at set
    cases set

theorem not_breaks_text {limits : TextLimits} (ordered : limits.Ordered)
    (patternless : limits.pattern = none) :
    ¬Breaks (.text limits) (.text limits.sample) l := by
  have hLength : limits.sample.length = limits.minLength.getD 0 := by
    rw [TextLimits.sample, String.length_ofList, List.length_replicate]
  intro h
  cases h with
  | pattern set =>
    cases patternless.symm.trans set
  | minLength set h =>
    rw [hLength, show limits.minLength = some _ from set] at h
    exact absurd h (Nat.lt_irrefl _)
  | maxLength set h =>
    rw [hLength] at h
    cases hLeast : limits.minLength with
    | none =>
      rw [hLeast] at h
      cases h
    | some least =>
      rw [hLeast] at h
      exact absurd (ordered least _ hLeast set) (Nat.not_le_of_lt h)
  | minimum number => cases number
  | maximum number => cases number

theorem not_breaks_float (ordered : shape.bounds.Ordered) :
    ¬Breaks shape (.float shape.bounds.sample) l := by
  intro h
  cases h with
  | minimum number set h =>
    obtain rfl := Option.some.inj number
    rw [Bounds.sample, set] at h
    exact absurd h (Double.not_lt_self _)
  | maximum number set h =>
    obtain rfl := Option.some.inj number
    cases hLeast : shape.bounds.minimum with
    | none =>
      rw [Bounds.sample, hLeast, set] at h
      exact absurd h (Double.not_lt_self _)
    | some least =>
      rw [Bounds.sample, hLeast] at h
      cases (ordered.ordered least _ hLeast set).symm.trans h

theorem not_breaks_sample (feasible : Feasible (.shape shape))
    (patternless : Patternless (.shape shape)) : ¬Breaks shape (.ofJson shape.sample) l := by
  cases shape with
  | text limits => exact not_breaks_text (feasible.texts _ rfl) (patternless _ rfl)
  | number bounds => exact not_breaks_float (feasible.numbers _ rfl)
  | double bounds => exact not_breaks_float (feasible.numbers _ rfl)
  | _ => exact not_breaks_of_unlimited rfl rfl

theorem not_violates_sample {rules : Rules} {cause : Cause} (feasible : e.Feasible)
    (patternless : e.Patternless) : ¬Violates rules e (.ofJson e.sample) cause := by
  intro h
  generalize hw : Value.ofJson e.sample = w at h
  cases h with
  | missing follows declared _ absent =>
    have hNamed := feasible.named _ follows
    rw [ofJson_sample_of_schema follows hNamed] at hw
    cases hw
    rw [lookup_map_values fun f : Field => Value.ofJson f.shape.sample,
      lookup_eq_some_of_mem hNamed.distinct declared] at absent
    cases absent
  | unknown _ follows present undeclared =>
    rw [ofJson_sample_of_schema follows (feasible.named _ follows)] at hw
    cases hw
    obtain ⟨m, hMem, hSame⟩ := List.mem_map.mp present
    cases hSame
    exact undeclared m.2 hMem
  | mismatch h =>
    obtain ⟨c, hAdmits⟩ := admits_sample feasible.named
    rw [hw] at hAdmits
    cases (classify_of_classifies hAdmits).symm.trans h
  | limit _ h =>
    subst hw
    exact not_breaks_sample feasible patternless h

end Demand

/-- Data has every declared field, at every place to which a schema leads, and has elements wherever
it is said what they must be. -/
structure Schema.FilledBy (s : Schema) (data : Value) : Prop where
  fields : ∀ path e level members, Demand.Leads (.schema s) data path e (.object members) →
    e.schema? = some level → ∀ m ∈ level.fields, ∃ v, members.lookup m.1 = some v
  elements : ∀ path e items vs, Demand.Leads (.schema s) data path e (.array vs) →
    e.items? = some items → vs ≠ []

namespace Json

/-- A document that a text can hold, with no key twice in an object. -/
structure Whole (j : Json) : Prop where
  isDocument : j.IsDocument
  regular : ∃ depth, j.Regular depth

theorem Regular.mono {depth depth' : Nat} {j : Json} (h : j.Regular depth) (le : depth ≤ depth') :
    j.Regular depth' := by
  induction h generalizing depth' with
  | null => exact .null
  | bool b => exact .bool b
  | int n => exact .int n
  | float x => exact .float x
  | str s => exact .str s
  | arr _ ih =>
    cases depth' with
    | zero => cases le
    | succ depth' => exact .arr fun j hj => ih j hj (Nat.le_of_succ_le_succ le)
  | obj _ distinct ih =>
    cases depth' with
    | zero => cases le
    | succ depth' => exact .obj (fun m hm => ih m hm (Nat.le_of_succ_le_succ le)) distinct

theorem exists_depth_of_each {js : List Json} (each : ∀ j ∈ js, ∃ depth, j.Regular depth) :
    ∃ depth, ∀ j ∈ js, j.Regular depth := by
  induction js with
  | nil => exact ⟨0, nofun⟩
  | cons j rest ih =>
    obtain ⟨⟨depth, hHead⟩, hRest⟩ := List.forall_mem_cons.mp each
    obtain ⟨depth', hEach⟩ := ih hRest
    refine ⟨max depth depth', List.forall_mem_cons.mpr ⟨hHead.mono (Nat.le_max_left _ _), ?_⟩⟩
    exact fun k hk => (hEach k hk).mono (Nat.le_max_right _ _)

theorem Whole.arr {items : List Json} (each : ∀ j ∈ items, j.Whole) : (Json.arr items).Whole := by
  obtain ⟨depth, hDepth⟩ := exists_depth_of_each fun j hj => (each j hj).regular
  exact ⟨.arr fun j hj => (each j hj).isDocument, depth + 1, .arr hDepth⟩

theorem Whole.obj {members : List (String × Json)} (each : ∀ m ∈ members, m.2.Whole)
    (distinct : (members.map Prod.fst).Nodup) : (Json.obj members).Whole := by
  have hEach : ∀ j ∈ members.map Prod.snd, ∃ depth, j.Regular depth := by
    intro j hj
    obtain ⟨m, hMem, rfl⟩ := List.mem_map.mp hj
    exact (each m hMem).regular
  obtain ⟨depth, hDepth⟩ := exists_depth_of_each hEach
  refine ⟨.obj fun m hm => (each m hm).isDocument, depth + 1, .obj ?_ distinct⟩
  exact fun m hm => hDepth m.2 (List.mem_map_of_mem hm)

end Json

theorem Bounds.Ordered.isFinite_sample {bounds : Bounds} (h : bounds.Ordered) :
    bounds.sample.isFinite = true := by
  cases hLeast : bounds.minimum with
  | some least =>
    rw [Bounds.sample, hLeast]
    exact h.finite least (.inl hLeast)
  | none =>
    cases hMost : bounds.maximum with
    | some most =>
      rw [Bounds.sample, hLeast, hMost]
      exact h.finite most (.inr hMost)
    | none =>
      rw [Bounds.sample, hLeast, hMost]
      decide

theorem Kind.whole_sample (k : Kind) : k.sample.Whole := by
  cases k with
  | string | date => exact ⟨.str _, 0, .str _⟩
  | number | double => exact ⟨.float (by decide), 0, .float _⟩
  | boolean => exact ⟨.bool _, 0, .bool _⟩
  | array => exact ⟨.arr nofun, 1, .arr nofun⟩
  | object => exact ⟨.obj nofun, 1, .obj nofun .nil⟩
  | null => exact ⟨.null, 0, .null⟩
  | timestamp => exact ⟨.int (by decide) (by decide), 0, .int _⟩

-- By the recursion of the sample.
mutual

theorem Shape.whole_sample : (shape : Shape) → Demand.Throughout Demand.Feasible (.shape shape) →
    shape.sample.Whole
  | .text _, _ => ⟨.str _, 0, .str _⟩
  | .number _, h | .double _, h =>
    ⟨.float (h.here.numbers _ rfl).isFinite_sample, 0, .float _⟩
  | .array (some items), h =>
    .arr (List.forall_mem_singleton.mpr (Items.whole_sample items (h.items rfl)))
  | .object (some s), h =>
    Schema.whole_sample s (h.here.named s rfl) fun _ hMem => h.field rfl hMem
  | .boolean, _ => Kind.boolean.whole_sample
  | .array none, _ => Kind.array.whole_sample
  | .object none, _ => Kind.object.whole_sample
  | .null, _ => Kind.null.whole_sample
  | .date, _ => Kind.date.whole_sample
  | .timestamp, _ => Kind.timestamp.whole_sample

theorem Items.whole_sample : (items : Items) →
    Demand.Throughout Demand.Feasible (.ofItems items) → items.sample.Whole
  | .kind k, _ => k.whole_sample
  | .field (.mk _ shape), h => Shape.whole_sample shape h
  | .schema s, h => Schema.whole_sample s (h.here.named s rfl) fun _ hMem => h.field rfl hMem

theorem Schema.whole_sample : (s : Schema) → s.Named →
    (∀ m ∈ s.fields, Demand.Throughout Demand.Feasible (.shape m.2.shape)) →
    (Json.obj s.sample).Whole
  | .mk fields, named, each => by
    refine .obj (Field.whole_samples fields each) ?_
    have hKeys : (Schema.mk fields).sample.map Prod.fst = fields.map Prod.fst := by
      rw [Schema.sample_eq_map, List.map_map]
      rfl
    exact hKeys ▸ named.distinct

theorem Field.whole_samples : (fields : List (String × Field)) →
    (∀ m ∈ fields, Demand.Throughout Demand.Feasible (.shape m.2.shape)) →
    ∀ m ∈ Field.samples fields, m.2.Whole
  | [], _ => nofun
  | (name, .mk _ shape) :: rest, each => by
    obtain ⟨hHead, hRest⟩ := List.forall_mem_cons.mp each
    exact List.forall_mem_cons.mpr ⟨Shape.whole_sample shape hHead, Field.whole_samples rest hRest⟩

end

/-- What a schema asks for is found in its sample, with a value for every field and an element for
every array, whether undeclared keys are let pass or not. -/
theorem Schema.sample_satisfies {s : Schema}
    (feasible : Demand.Throughout Demand.Feasible (.schema s))
    (patternless : Demand.Throughout Demand.Patternless (.schema s)) :
    (Json.obj s.sample).Whole ∧ (∀ rules, s.validate rules (.ofJson (.obj s.sample)) = .ok ()) ∧
      s.FilledBy (.ofJson (.obj s.sample)) := by
  have hNamed : Demand.Throughout (fun e => ∀ level, e.schema? = some level → level.Named)
      (.schema s) := fun e hInside => (feasible e hInside).named
  have hObject : Value.ofJson (.obj s.sample) =
      .object (s.fields.map fun m => (m.1, .ofJson m.2.shape.sample)) :=
    Demand.ofJson_sample_of_schema (d := .schema s) rfl (hNamed.here s rfl)
  refine ⟨whole_sample s (hNamed.here s rfl) fun _ hMem => feasible.field rfl hMem, ?_, ?_, ?_⟩
  · intro rules
    rw [hObject, Schema.validate, Validation.checkSchema_eq_firstOf, firstOf_eq_ok_iff,
      List.eq_nil_iff_forall_not_mem]
    intro f hMem
    obtain ⟨e, w, leads, hViolates⟩ := reports_of_mem_schema (d := .schema s) s rfl _ f hMem
    obtain ⟨rfl, hInside⟩ := Demand.leads_sample leads hNamed hObject.symm
    exact Demand.not_violates_sample (feasible e hInside) (patternless e hInside) hViolates
  · intro path e level members leads follows m hMem
    obtain ⟨hSample, hInside⟩ := Demand.leads_sample leads hNamed rfl
    have hLevel := hNamed e hInside level follows
    rw [Demand.ofJson_sample_of_schema follows hLevel] at hSample
    cases hSample
    refine ⟨.ofJson m.2.shape.sample, ?_⟩
    rw [lookup_map_values fun f : Field => Value.ofJson f.shape.sample,
      lookup_eq_some_of_mem hLevel.distinct hMem]
    rfl
  · intro path e items vs leads follows
    obtain ⟨hSample, -⟩ := Demand.leads_sample leads hNamed rfl
    rw [Demand.sample_of_items follows, Value.ofJson, Value.ofItems] at hSample
    cases hSample
    exact List.cons_ne_nil _ _

end Intake
