import Intake.Proofs.Violations

/-! # The first violation

A path leads from a schema and data to a part of the data and what is asked of it. The list of
violations holds exactly what is the case at the end of such a path, and validation fails with the
first of the list.
-/

namespace Intake

/-- What is asked of a value at some place. -/
inductive Demand where
  | kind (kind : Kind)
  | shape (shape : Shape)
  | schema (schema : Schema)

namespace Demand

def expected : Demand → Kind
  | .kind k => k
  | .shape s => s.kind
  | .schema _ => .object

/-- The schema that the members of an object have to follow. -/
def schema? : Demand → Option Schema
  | .kind _ => none
  | .shape s => s.nested?
  | .schema s => some s

def items? : Demand → Option Items
  | .shape s => s.items?
  | _ => none

def ofItems : Items → Demand
  | .kind k => kind k
  | .field f => shape f.shape
  | .schema s => schema s

/-- A path leads from a value and what is asked of it to a part of the value and what is asked
there. -/
inductive Leads : Demand → Value → List DataStep → Demand → Value → Prop where
  | here (d : Demand) (v : Value) : Leads d v [] d v
  | field {d e : Demand} {s : Schema} {name : String} {f : Field}
      {members : List (String × Value)} {v w : Value} {path : List DataStep}
      (follows : d.schema? = some s) (declared : (name, f) ∈ s.fields)
      (present : members.lookup name = some v) (rest : Leads (shape f.shape) v path e w) :
      Leads d (.object members) (.field name :: path) e w
  | index {d e : Demand} {items : Items} {i : Nat} {vs : List Value} {v w : Value}
      {path : List DataStep} (follows : d.items? = some items) (present : vs[i]? = some v)
      (rest : Leads (ofItems items) v path e w) : Leads d (.array vs) (.index i :: path) e w

/-- A limit that is set and that the value breaks. -/
inductive Breaks : Shape → Value → Limit → Prop where
  | pattern {shape : Shape} {s : String} {p : Pattern} (set : shape.textLimits.pattern = some p)
      (h : p.matchesIn s = false) : Breaks shape (.text s) (.pattern p.source)
  | minLength {shape : Shape} {s : String} {n : Nat} (set : shape.textLimits.minLength = some n)
      (h : s.length < n) : Breaks shape (.text s) (.minLength n)
  | maxLength {shape : Shape} {s : String} {n : Nat} (set : shape.textLimits.maxLength = some n)
      (h : n < s.length) : Breaks shape (.text s) (.maxLength n)
  | minimum {shape : Shape} {v : Value} {x b : Double} (number : v.number? = some x)
      (set : shape.bounds.minimum = some b) (h : x.lt b = true) : Breaks shape v (.minimum b)
  | maximum {shape : Shape} {v : Value} {x b : Double} (number : v.number? = some x)
      (set : shape.bounds.maximum = some b) (h : b.lt x = true) : Breaks shape v (.maximum b)

/-- The cause is the case for a value of which something is asked. -/
inductive Violates (rules : Rules) : Demand → Value → Cause → Prop where
  | missing {d : Demand} {s : Schema} {name : String} {f : Field}
      {members : List (String × Value)} (follows : d.schema? = some s)
      (declared : (name, f) ∈ s.fields) (required : f.required = true)
      (absent : members.lookup name = none) : Violates rules d (.object members) (.missing name)
  | unknown {d : Demand} {s : Schema} {key : String} {v : Value}
      {members : List (String × Value)} (refused : rules.rejectUnknown = true)
      (follows : d.schema? = some s) (present : (key, v) ∈ members)
      (undeclared : ∀ f, (key, f) ∉ s.fields) : Violates rules d (.object members) (.unknown key)
  | mismatch {d : Demand} {v : Value} {why : Mismatch}
      (h : classify d.expected v = .error why) : Violates rules d v (.mismatch d.expected why)
  | limit {s : Shape} {v : Value} {l : Limit} (kind : s.kind.Admits v) (h : Breaks s v l) :
      Violates rules (shape s) v (.limit l)

/-- A failure that leads to its cause. -/
def Reports (rules : Rules) (d : Demand) (v : Value) (f : Failure) : Prop :=
  ∃ e w, Leads d v f.path e w ∧ Violates rules e w f.cause

end Demand

namespace Limit

theorem mem_ofText_iff {shape : Shape} {s : String} {l : Limit} :
    l ∈ ofText shape.textLimits s ↔ Demand.Breaks shape (.text s) l := by
  simp only [ofText, List.mem_append, List.mem_map, List.mem_filter, Option.mem_toList]
  constructor
  · rintro ((⟨p, ⟨set, h⟩, rfl⟩ | ⟨n, ⟨set, h⟩, rfl⟩) | ⟨n, ⟨set, h⟩, rfl⟩)
    · exact .pattern set (by simpa using h)
    · exact .minLength set (by simpa using h)
    · exact .maxLength set (by simpa using h)
  · intro h
    cases h with
    | pattern set h => exact .inl (.inl ⟨_, ⟨set, by simp [h]⟩, rfl⟩)
    | minLength set h => exact .inl (.inr ⟨_, ⟨set, by simp [h]⟩, rfl⟩)
    | maxLength set h => exact .inr ⟨_, ⟨set, by simp [h]⟩, rfl⟩
    | minimum number => cases number
    | maximum number => cases number

theorem mem_ofNumber_iff {shape : Shape} {v : Value} {x : Double} (hx : v.number? = some x)
    {l : Limit} : l ∈ ofNumber shape.bounds x ↔ Demand.Breaks shape v l := by
  simp only [ofNumber, List.mem_append, List.mem_map, List.mem_filter, Option.mem_toList]
  constructor
  · rintro (⟨b, ⟨set, h⟩, rfl⟩ | ⟨b, ⟨set, h⟩, rfl⟩)
    · exact .minimum hx set h
    · exact .maximum hx set h
  · intro h
    cases h with
    | pattern | minLength | maxLength => cases hx
    | minimum number set h =>
      rw [hx] at number
      cases number
      exact .inl ⟨_, ⟨set, h⟩, rfl⟩
    | maximum number set h =>
      rw [hx] at number
      cases number
      exact .inr ⟨_, ⟨set, h⟩, rfl⟩

theorem mem_ofShape_iff {shape : Shape} {v : Value} {l : Limit} :
    l ∈ ofShape shape v ↔ Demand.Breaks shape v l := by
  cases hv : v.number? with
  | some x => rw [ofShape_number hv, mem_ofNumber_iff hv]
  | none =>
    cases v with
    | text s => rw [ofShape_text, mem_ofText_iff]
    | int | float => cases hv
    | _ =>
      refine iff_of_false nofun ?_
      rintro (_ | _ | _ | ⟨number, -⟩ | ⟨number, -⟩) <;> cases number

end Limit

theorem Failure.mem_ofElements_iff {list : Value → List Failure} {i : Nat} {vs : List Value}
    {f : Failure} : f ∈ ofElements list i vs ↔
      ∃ k v g, vs[k]? = some v ∧ g ∈ list v ∧ g.within (.index (i + k)) = f := by
  induction vs generalizing i with
  | nil => simp [ofElements]
  | cons v rest ih =>
    rw [ofElements, List.mem_append, ih, List.mem_map]
    constructor
    · rintro (⟨g, hg, rfl⟩ | ⟨k, w, g, hw, hg, rfl⟩)
      · exact ⟨0, v, g, rfl, hg, rfl⟩
      · exact ⟨k + 1, w, g, hw, hg, by rw [Nat.add_right_comm, Nat.add_assoc]⟩
    · rintro ⟨_ | k, w, g, hw, hg, rfl⟩
      · cases hw
        exact .inl ⟨g, hg, rfl⟩
      · exact .inr ⟨k, w, g, hw, hg, by rw [Nat.add_right_comm, Nat.add_assoc]⟩

theorem Failure.mem_ofKeys_iff {rules : Rules} {schema : Schema} {members : List (String × Value)}
    {f : Failure} : f ∈ ofKeys rules schema members ↔ rules.rejectUnknown = true ∧
      ∃ key v, (key, v) ∈ members ∧ (∀ field, (key, field) ∉ schema.fields) ∧
        here (.unknown key) = f := by
  have hDeclares (key : String) :
      schema.declares key = false ↔ ∀ field, (key, field) ∉ schema.fields := by
    rw [← lookup_eq_none_iff_forall]
    simp [Schema.declares, Schema.get?]
  unfold ofKeys
  split
  · next h => simp [h, hDeclares, and_assoc]
  · next h => simp [h]

namespace Demand

theorem Reports.here {rules : Rules} {d : Demand} {v : Value} {cause : Cause}
    (h : Violates rules d v cause) : Reports rules d v (.here cause) :=
  ⟨d, v, .here d v, h⟩

theorem Reports.field {rules : Rules} {d : Demand} {s : Schema} {name : String} {f : Field}
    {members : List (String × Value)} {v : Value} {g : Failure} (follows : d.schema? = some s)
    (declared : (name, f) ∈ s.fields) (present : members.lookup name = some v)
    (h : Reports rules (.shape f.shape) v g) :
    Reports rules d (.object members) (g.within (.field name)) := by
  obtain ⟨e, w, hLeads, hViolates⟩ := h
  exact ⟨e, w, .field follows declared present hLeads, hViolates⟩

theorem Reports.index {rules : Rules} {d : Demand} {items : Items} {i : Nat} {vs : List Value}
    {v : Value} {g : Failure} (follows : d.items? = some items) (present : vs[i]? = some v)
    (h : Reports rules (ofItems items) v g) :
    Reports rules d (.array vs) (g.within (.index i)) := by
  obtain ⟨e, w, hLeads, hViolates⟩ := h
  exact ⟨e, w, .index follows present hLeads, hViolates⟩

end Demand

/-- Mismatches and broken limits are reported where they are; the rest lies inside. -/
theorem reports_of_mem_shape_of {rules : Rules} {shape : Shape} {v : Value} {g : Failure}
    (inner : g ∈ shape.inner rules v → Demand.Reports rules (.shape shape) v g)
    (hg : g ∈ shape.violations rules v) : Demand.Reports rules (.shape shape) v g := by
  cases hc : classify shape.kind v with
  | error why =>
    rw [Shape.violations_of_mismatch hc] at hg
    cases List.mem_singleton.mp hg
    exact .here (.mismatch (d := .shape shape) hc)
  | ok c =>
    have hc := classify_eq_ok_iff.mp hc
    rw [Shape.violations_of_classifies hc] at hg
    rcases List.mem_append.mp hg with hg | hg
    · obtain ⟨l, hl, rfl⟩ := List.mem_map.mp hg
      exact .here (.limit ⟨c, hc⟩ (Limit.mem_ofShape_iff.mp hl))
    · exact inner hg

mutual

theorem reports_of_mem_fields {rules : Rules} {d : Demand} {s : Schema}
    (follows : d.schema? = some s) (members : List (String × Value)) :
    (fields : List (String × Field)) → (∀ p ∈ fields, p ∈ s.fields) →
      ∀ g ∈ Field.violations rules members fields,
        Demand.Reports rules d (.object members) g
  | [], _, g, hg => by
    rw [Field.violations] at hg
    cases hg
  | (name, .mk required shape) :: rest, hFields, g, hg => by
    have hDeclared := hFields _ List.mem_cons_self
    rw [Field.violations] at hg
    rcases List.mem_append.mp hg with hg | hg
    · split at hg
      · next hAbsent =>
        split at hg
        · next hRequired =>
          cases List.mem_singleton.mp hg
          exact .here (.missing follows hDeclared hRequired hAbsent)
        · cases hg
      · next v hPresent =>
        obtain ⟨h, hh, rfl⟩ := List.mem_map.mp hg
        exact .field follows hDeclared hPresent (reports_of_mem_shape shape v h hh)
    · exact reports_of_mem_fields follows members rest
        (fun p hp => hFields p (List.mem_cons_of_mem _ hp)) g hg

theorem reports_of_mem_schema {rules : Rules} {d : Demand} : (s : Schema) → d.schema? = some s →
    (members : List (String × Value)) → ∀ g ∈ s.violations rules members,
      Demand.Reports rules d (.object members) g
  | .mk fields, follows, members, g, hg => by
    rw [Schema.violations] at hg
    rcases List.mem_append.mp hg with hg | hg
    · exact reports_of_mem_fields follows members fields (fun p hp => hp) g hg
    · obtain ⟨hRefused, key, v, hPresent, hUndeclared, rfl⟩ := Failure.mem_ofKeys_iff.mp hg
      exact .here (.unknown hRefused follows hPresent hUndeclared)

theorem reports_of_mem_shape {rules : Rules} : (shape : Shape) → (v : Value) →
    ∀ g ∈ shape.violations rules v, Demand.Reports rules (.shape shape) v g
  | .object (some schema), v, g, hg => by
    refine reports_of_mem_shape_of (fun hg => ?_) hg
    cases v with
    | object members => exact reports_of_mem_schema schema rfl members g hg
    | _ => cases hg
  | .array (some items), v, g, hg => by
    refine reports_of_mem_shape_of (fun hg => ?_) hg
    cases v with
    | array vs =>
      obtain ⟨i, v, h, hv, hh, rfl⟩ := Failure.mem_ofElements_iff.mp hg
      rw [Nat.zero_add]
      exact .index rfl hv (reports_of_mem_items items v h hh)
    | _ => cases hg
  | .text _, _, _, hg | .number _, _, _, hg | .double _, _, _, hg | .boolean, _, _, hg
  | .array none, _, _, hg | .object none, _, _, hg | .null, _, _, hg | .date, _, _, hg
  | .timestamp, _, _, hg => reports_of_mem_shape_of nofun hg

theorem reports_of_mem_items {rules : Rules} : (items : Items) → (v : Value) →
    ∀ g ∈ items.violations rules v, Demand.Reports rules (.ofItems items) v g
  | .kind k, v, g, hg => by
    rw [Items.violations] at hg
    split at hg
    · next why hc =>
      cases List.mem_singleton.mp hg
      exact .here (.mismatch (d := .kind k) hc)
    · cases hg
  | .field (.mk required shape), v, g, hg => by
    rw [Items.violations] at hg
    exact reports_of_mem_shape shape v g hg
  | .schema schema, v, g, hg => by
    cases v with
    | object members =>
      exact reports_of_mem_schema schema rfl members g hg
    | _ =>
      cases List.mem_singleton.mp hg
      exact .here (.mismatch (d := .schema schema) rfl)

end

namespace Demand

def violations (rules : Rules) : Demand → Value → List Failure
  | .kind k, v => Items.violations rules (.kind k) v
  | .shape s, v => s.violations rules v
  | .schema s, v => Items.violations rules (.schema s) v

theorem violations_ofItems (rules : Rules) (items : Items) (v : Value) :
    (ofItems items).violations rules v = items.violations rules v := by
  cases items with
  | kind | schema => rfl
  | field f =>
    cases f
    rfl

theorem mem_of_schema {rules : Rules} {d : Demand} {s : Schema} {members : List (String × Value)}
    {g : Failure} (follows : d.schema? = some s) (h : g ∈ s.violations rules members) :
    g ∈ d.violations rules (.object members) := by
  cases d with
  | kind => cases follows
  | schema =>
    cases follows
    exact h
  | shape t =>
    cases t with
    | object nested =>
      cases follows
      exact h
    | _ => cases follows

theorem mem_of_items {rules : Rules} {d : Demand} {items : Items} {vs : List Value} {i : Nat}
    {v : Value} {g : Failure} (follows : d.items? = some items) (hv : vs[i]? = some v)
    (h : g ∈ items.violations rules v) : g.within (.index i) ∈ d.violations rules (.array vs) := by
  have hMem : g.within (.index i) ∈ Failure.ofElements (items.violations rules) 0 vs :=
    Failure.mem_ofElements_iff.mpr ⟨i, v, g, hv, h, by rw [Nat.zero_add]⟩
  cases d with
  | kind | schema => cases follows
  | shape t =>
    cases t with
    | array =>
      cases follows
      exact hMem
    | _ => cases follows

theorem mem_fields_missing {rules : Rules} {members : List (String × Value)} {name : String}
    {f : Field} {fields : List (String × Field)} (declared : (name, f) ∈ fields)
    (required : f.required = true) (absent : members.lookup name = none) :
    .here (.missing name) ∈ Field.violations rules members fields := by
  induction fields with
  | nil => cases declared
  | cons p rest ih =>
    obtain ⟨n, r, t⟩ := p
    rw [Field.violations]
    rcases List.mem_cons.mp declared with hEq | hMem
    · cases hEq
      cases required
      simp [absent]
    · exact List.mem_append_right _ (ih hMem)

theorem mem_fields_within {rules : Rules} {members : List (String × Value)} {name : String}
    {f : Field} {fields : List (String × Field)} {v : Value} {g : Failure}
    (declared : (name, f) ∈ fields) (present : members.lookup name = some v)
    (h : g ∈ f.shape.violations rules v) :
    g.within (.field name) ∈ Field.violations rules members fields := by
  induction fields with
  | nil => cases declared
  | cons p rest ih =>
    obtain ⟨n, r, t⟩ := p
    rw [Field.violations]
    rcases List.mem_cons.mp declared with hEq | hMem
    · cases hEq
      rw [present]
      exact List.mem_append_left _ (List.mem_map_of_mem h)
    · exact List.mem_append_right _ (ih hMem)

theorem violations_of_mismatch {rules : Rules} {d : Demand} {v : Value} {why : Mismatch}
    (h : classify d.expected v = .error why) :
    d.violations rules v = [.here (.mismatch d.expected why)] := by
  cases d with
  | kind k =>
    rw [expected] at h
    rw [violations, Items.violations, h]
    rfl
  | shape s => exact Shape.violations_of_mismatch h
  | schema s =>
    cases v with
    | object => cases h
    | _ =>
      cases h
      rfl

theorem mem_of_violates {rules : Rules} {d : Demand} {v : Value} {cause : Cause}
    (h : Violates rules d v cause) : .here cause ∈ d.violations rules v := by
  cases h with
  | @missing _ s name f members follows declared required absent =>
    refine mem_of_schema follows ?_
    cases s
    exact List.mem_append_left _ (mem_fields_missing declared required absent)
  | @unknown _ s key w members refused follows present undeclared =>
    refine mem_of_schema follows ?_
    cases s
    exact List.mem_append_right _
      (Failure.mem_ofKeys_iff.mpr ⟨refused, key, w, present, undeclared, rfl⟩)
  | mismatch h =>
    rw [violations_of_mismatch h]
    exact List.mem_singleton_self _
  | limit kind h =>
    obtain ⟨c, hc⟩ := kind
    rw [violations, Shape.violations_of_classifies hc]
    exact List.mem_append_left _ (List.mem_map_of_mem (Limit.mem_ofShape_iff.mpr h))

theorem mem_of_leads {rules : Rules} {d e : Demand} {v w : Value} {path : List DataStep}
    {cause : Cause} (hLeads : Leads d v path e w) (h : Violates rules e w cause) :
    ⟨path, cause⟩ ∈ d.violations rules v := by
  induction hLeads with
  | here d v => exact mem_of_violates h
  | @field d e s name f members v w path follows declared present _ ih =>
    refine mem_of_schema follows ?_
    cases s
    exact List.mem_append_left _ (mem_fields_within declared present (ih h))
  | index follows present _ ih =>
    exact mem_of_items follows present (violations_ofItems .. ▸ ih h)

end Demand

/-- Validation fails with the first of all violations. The list holds what is the case somewhere in
the data and nothing else, so the path of the failure leads to what it reports. -/
theorem Schema.validate_eq_first_violation (rules : Rules) (schema : Schema)
    (members : List (String × Value)) :
    schema.validate rules (.object members) = firstOf (schema.violations rules members) ∧
      (∀ f, f ∈ schema.violations rules members ↔
        Demand.Reports rules (.schema schema) (.object members) f) ∧
      ∀ f, schema.validate rules (.object members) = .error f →
        Demand.Reports rules (.schema schema) (.object members) f := by
  have hFirst : schema.validate rules (.object members) =
      firstOf (schema.violations rules members) :=
    Validation.checkSchema_eq_firstOf rules schema members
  have hReports : ∀ f ∈ schema.violations rules members,
      Demand.Reports rules (.schema schema) (.object members) f :=
    reports_of_mem_schema schema rfl members
  refine ⟨hFirst, fun f => ⟨hReports f, ?_⟩, ?_⟩
  · rintro ⟨e, w, hLeads, hViolates⟩
    exact Demand.mem_of_leads hLeads hViolates
  · intro f h
    rw [hFirst] at h
    exact hReports f (mem_of_firstOf h)

/-- The second tag is no text; the undeclared key comes later. -/
theorem validate_second_tag :
    let schema : Schema := .mk
      [("name", .mk true (.text { minLength := some 1 })),
        ("tags", .mk false (.array (some (.kind .string))))]
    let members : List (String × Value) :=
      [("extra", .null), ("tags", .array [.text "new", .int 4]), ("name", .text "Jane")]
    let failure : Failure := ⟨[.field "tags", .index 1], .mismatch .string (.wrongKind .string)⟩
    schema.validate ⟨true⟩ (.object members) = .error failure ∧
      Demand.Reports ⟨true⟩ (.schema schema) (.object members) failure :=
  ⟨rfl, (Schema.validate_eq_first_violation _ _ _).2.2 _ rfl⟩

end Intake
