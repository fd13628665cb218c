import Intake.Proofs.Fallible
import Intake.Proofs.Members
import Intake.Validation

/-! # Conformance

What it is for data to conform to a schema, said without the order in which data is checked and
without failures. The main statement is that validation accepts exactly the data that conforms.
-/

namespace Intake

/-- A value is taken for what it is under a kind. -/
inductive Classifies : Kind → Value → Classified → Prop where
  | null : Classifies .null .null .null
  | text (s : String) : Classifies .string (.text s) (.text s)
  | integer (n : Int64) : Classifies .number (.int n) (.number (Double.ofInt n.toInt))
  | number (x : Double) : Classifies .number (.float x) (.number x)
  | double (x : Double) : Classifies .double (.float x) (.number x)
  | boolean (b : Bool) : Classifies .boolean (.bool b) (.bool b)
  | array (items : List Value) : Classifies .array (.array items) (.array items)
  | object (members : List (String × Value)) :
      Classifies .object (.object members) (.object members)
  | date (t : Instant) : Classifies .date (.date t) (.date t)
  | dateText {s : String} {t : Instant} (h : Instant.ofDateText? s.toList = some t) :
      Classifies .date (.text s) (.date t)
  | timestamp (t : StoreTimestamp) :
      Classifies .timestamp (.timestamp t) (.timestamp t.time.toNat)
  | integerSeconds (n : Int64) : Classifies .timestamp (.int n) (.timestamp n.toInt)
  | doubleSeconds (x : Double) : Classifies .timestamp (.float x) (.timestamp x.toInt64)
  | textSeconds {s : String} {n : Int} (h : Classified.seconds? s.toList = some n) :
      Classifies .timestamp (.text s) (.timestamp n)

theorem classify_of_classifies {kind : Kind} {v : Value} {c : Classified}
    (h : Classifies kind v c) : classify kind v = .ok c := by
  cases h with
  | dateText h => simp [classify, classifyPresent, Classified.dateOfText, h]
  | textSeconds h => simp [classify, classifyPresent, Classified.timestampOfText, h]
  | _ => rfl

theorem classifies_of_present {kind : Kind} {v : Value} {c : Classified}
    (h : classifyPresent kind v = .ok c) : Classifies kind v c := by
  unfold classifyPresent at h
  split at h
  case h_10 s =>
    unfold Classified.dateOfText at h
    split at h
    · next t ht => cases h; exact .dateText ht
    · cases h
  case h_14 s =>
    unfold Classified.timestampOfText at h
    split at h
    · next n hn => cases h; exact .textSeconds hn
    · cases h
  all_goals cases h
  all_goals constructor

theorem classify_eq_ok_iff {kind : Kind} {v : Value} {c : Classified} :
    classify kind v = .ok c ↔ Classifies kind v c := by
  refine ⟨fun h => ?_, classify_of_classifies⟩
  unfold classify at h
  split at h
  · split at h
    · next hk => cases h; exact hk ▸ .null
    · cases h
  · exact classifies_of_present h

def Kind.Admits (kind : Kind) (v : Value) : Prop := ∃ c, Classifies kind v c

/-- The number that a value stands for. -/
def Value.number? : Value → Option Double
  | int n => some (Double.ofInt n.toInt)
  | float x => some x
  | _ => none

structure TextLimits.Admits (limits : TextLimits) (s : String) : Prop where
  pattern : ∀ p, limits.pattern = some p → p.matchesIn s = true
  minLength : ∀ n, limits.minLength = some n → n ≤ s.length
  maxLength : ∀ n, limits.maxLength = some n → s.length ≤ n

/-- Bounds are inclusive: only what lies strictly beyond a bound breaks it. What is not a number
lies beyond no bound. -/
structure Bounds.Admits (bounds : Bounds) (x : Double) : Prop where
  minimum : ∀ b, bounds.minimum = some b → x.lt b = false
  maximum : ∀ b, bounds.maximum = some b → b.lt x = false

mutual

/-- A value meets a shape: it is of the kind, within the limits, and what it holds conforms. -/
inductive Shape.Admits (rules : Rules) : Shape → Value → Prop where
  | mk {shape : Shape} {v : Value}
      (kind : shape.kind.Admits v)
      (text : ∀ s, v = .text s → shape.textLimits.Admits s)
      (number : ∀ x, v.number? = some x → shape.bounds.Admits x)
      (nested : ∀ schema members, shape.nested? = some schema → v = .object members →
        Schema.AdmitsMembers rules schema members)
      (items : ∀ items vs, shape.items? = some items → v = .array vs →
        ∀ w ∈ vs, Items.Admits rules items w) :
      Shape.Admits rules shape v

inductive Items.Admits (rules : Rules) : Items → Value → Prop where
  | kind {kind : Kind} {v : Value} (h : kind.Admits v) : Items.Admits rules (.kind kind) v
  | field {required : Bool} {shape : Shape} {v : Value} (h : Shape.Admits rules shape v) :
      Items.Admits rules (.field (.mk required shape)) v
  | schema {schema : Schema} {members : List (String × Value)}
      (h : Schema.AdmitsMembers rules schema members) :
      Items.Admits rules (.schema schema) (.object members)

inductive Schema.AdmitsMembers (rules : Rules) : Schema → List (String × Value) → Prop where
  | mk {fields : List (String × Field)} {members : List (String × Value)}
      (present : ∀ name shape, (name, Field.mk true shape) ∈ fields →
        ∃ v, members.lookup name = some v)
      (conform : ∀ name required shape v, (name, Field.mk required shape) ∈ fields →
        members.lookup name = some v → Shape.Admits rules shape v)
      (declared : rules.rejectUnknown = true →
        ∀ key v, (key, v) ∈ members → ∃ field, (key, field) ∈ fields) :
      Schema.AdmitsMembers rules (.mk fields) members

end

/-- Data conforms to a schema if it is an object whose members do. -/
def Schema.Admits (rules : Rules) (schema : Schema) (data : Value) : Prop :=
  ∃ members, data = .object members ∧ Schema.AdmitsMembers rules schema members

theorem TextLimits.check_eq_ok_iff {limits : TextLimits} {s : String} :
    limits.check s = .ok () ↔ limits.Admits s := by
  have hPattern : limits.checkPattern s = .ok () ↔
      ∀ p, limits.pattern = some p → p.matchesIn s = true := by
    cases h : limits.pattern <;> simp [checkPattern, h]
  have hMin : limits.checkMin s = .ok () ↔ ∀ n, limits.minLength = some n → n ≤ s.length := by
    cases h : limits.minLength <;> simp [checkMin, h]
  have hMax : limits.checkMax s = .ok () ↔ ∀ n, limits.maxLength = some n → s.length ≤ n := by
    cases h : limits.maxLength <;> simp [checkMax, h]
  rw [check, seq_eq_ok_iff, seq_eq_ok_iff, hPattern, hMin, hMax]
  exact ⟨fun ⟨h₁, h₂, h₃⟩ => ⟨h₁, h₂, h₃⟩, fun ⟨h₁, h₂, h₃⟩ => ⟨h₁, h₂, h₃⟩⟩

theorem Bounds.check_eq_ok_iff {bounds : Bounds} {x : Double} :
    bounds.check x = .ok () ↔ bounds.Admits x := by
  have hMin : bounds.checkMin x = .ok () ↔ ∀ b, bounds.minimum = some b → x.lt b = false := by
    cases h : bounds.minimum <;> simp [checkMin, h]
  have hMax : bounds.checkMax x = .ok () ↔ ∀ b, bounds.maximum = some b → b.lt x = false := by
    cases h : bounds.maximum <;> simp [checkMax, h]
  rw [check, seq_eq_ok_iff, hMin, hMax]
  exact ⟨fun ⟨h₁, h₂⟩ => ⟨h₁, h₂⟩, fun ⟨h₁, h₂⟩ => ⟨h₁, h₂⟩⟩

namespace Validation

theorem under_eq_ok_iff {step : DataStep} {r : Except Failure Unit} :
    under step r = .ok () ↔ r = .ok () := by
  cases r <;> simp [under]

theorem ofLimit_eq_ok_iff {r : Except Limit Unit} : ofLimit r = .ok () ↔ r = .ok () := by
  cases r <;> simp [ofLimit]

theorem checkElements_eq_ok_iff {check : Value → Except Failure Unit} {i : Nat}
    {vs : List Value} : checkElements check i vs = .ok () ↔ ∀ v ∈ vs, check v = .ok () := by
  induction vs generalizing i with
  | nil => simp [checkElements]
  | cons v rest ih =>
    rw [List.forall_mem_cons, checkElements]
    split
    · next h => rw [ih, and_iff_right (under_eq_ok_iff.mp h)]
    · next f h =>
      have hv : check v ≠ .ok () := fun hv => by simp [under_eq_ok_iff.mpr hv] at h
      simp [hv]

theorem checkKeys_eq_ok_iff {rules : Rules} {fields : List (String × Field)}
    {members : List (String × Value)} :
    checkKeys rules fields members = .ok () ↔
      (rules.rejectUnknown = true →
        ∀ key v, (key, v) ∈ members → ∃ field, (key, field) ∈ fields) := by
  have hKey (key : String) :
      (fields.lookup key).isNone = false ↔ ∃ field, (key, field) ∈ fields := by
    rw [← Bool.not_eq_true, Option.isNone_iff_eq_none, lookup_eq_none_iff_forall]
    simp
  unfold checkKeys
  split
  · next hRules =>
    simp only [hRules, forall_const, ← hKey]
    split
    · next key v hFind =>
      have hMem := List.mem_of_find?_eq_some hFind
      have hNone : (fields.lookup key).isNone = true := by simpa using List.find?_some hFind
      simp only [reduceCtorEq, false_iff]
      intro h
      simp [h key v hMem] at hNone
    · next hFind =>
      simp only [true_iff]
      intro key v hMem
      simpa using List.find?_eq_none.mp hFind (key, v) hMem
  · next hRules => simp [hRules]

theorem checkShape_of_mismatch {rules : Rules} {shape : Shape} {v : Value} {why : Mismatch}
    (h : classify shape.kind v = .error why) :
    checkShape rules shape v = .error ⟨[], .mismatch shape.kind why⟩ := by
  rw [checkShape, h]
  rfl

/-- A value that is not of the kind is refused on both sides. -/
theorem checkShape_iff_of_classifies {rules : Rules} {shape : Shape} {v : Value}
    (h : ∀ c, Classifies shape.kind v c →
      (checkShape rules shape v = .ok () ↔ Shape.Admits rules shape v)) :
    checkShape rules shape v = .ok () ↔ Shape.Admits rules shape v := by
  cases hc : classify shape.kind v with
  | ok c => exact h c (classify_eq_ok_iff.mp hc)
  | error why =>
    rw [checkShape_of_mismatch hc]
    refine iff_of_false nofun ?_
    rintro ⟨⟨c, hk⟩, -⟩
    rw [classify_of_classifies hk] at hc
    cases hc

theorem checkShape_text_iff {rules : Rules} {limits : TextLimits} {v : Value} :
    checkShape rules (.text limits) v = .ok () ↔ Shape.Admits rules (.text limits) v := by
  apply checkShape_iff_of_classifies
  intro c hc
  cases hc with
  | text s =>
    change ofLimit (limits.check s) = .ok () ↔ _
    rw [ofLimit_eq_ok_iff, TextLimits.check_eq_ok_iff]
    constructor
    · intro h
      refine ⟨⟨_, .text s⟩, ?_, ?_, ?_, ?_⟩
      · rintro _ ⟨⟩
        exact h
      · rintro _ ⟨⟩
      · rintro _ _ ⟨⟩
      · rintro _ _ ⟨⟩
    · rintro ⟨-, h, -⟩
      exact h s rfl

/-- The two kinds of numbers differ only in what they classify. -/
theorem checkShape_bounds_iff {rules : Rules} {shape : Shape} {v : Value}
    (nested : shape.nested? = none) (items : shape.items? = none)
    (hCheck : ∀ c, Classifies shape.kind v c →
      ∃ x, v.number? = some x ∧ checkShape rules shape v = ofLimit (shape.bounds.check x)) :
    checkShape rules shape v = .ok () ↔ Shape.Admits rules shape v := by
  apply checkShape_iff_of_classifies
  intro c hc
  obtain ⟨x, hx, hCheck⟩ := hCheck c hc
  rw [hCheck, ofLimit_eq_ok_iff, Bounds.check_eq_ok_iff]
  constructor
  · intro h
    refine ⟨⟨c, hc⟩, ?_, ?_, ?_, ?_⟩
    · rintro s rfl
      cases hx
    · intro y hy
      rw [hx] at hy
      exact Option.some.inj hy ▸ h
    · simp [nested]
    · simp [items]
  · rintro ⟨-, -, h, -⟩
    exact h x hx

/-- A shape that sets no limits and looks into nothing asks for its kind alone. -/
theorem checkShape_plain_iff {rules : Rules} {shape : Shape} {v : Value}
    (text : shape.textLimits = {}) (bounds : shape.bounds = {})
    (nested : shape.nested? = none) (items : shape.items? = none)
    (hCheck : ∀ c, Classifies shape.kind v c → checkShape rules shape v = .ok ()) :
    checkShape rules shape v = .ok () ↔ Shape.Admits rules shape v := by
  apply checkShape_iff_of_classifies
  intro c hc
  refine iff_of_true (hCheck c hc) ⟨⟨c, hc⟩, ?_, ?_, ?_, ?_⟩
  · intro s _
    rw [text]
    constructor <;> rintro _ ⟨⟩
  · intro x _
    rw [bounds]
    constructor <;> rintro _ ⟨⟩
  · simp [nested]
  · simp [items]

mutual

theorem checkFields_eq_ok_iff (rules : Rules) (members : List (String × Value)) :
    (fields : List (String × Field)) → (checkFields rules members fields = .ok () ↔
      ∀ name required shape, (name, Field.mk required shape) ∈ fields →
        (required = true → ∃ v, members.lookup name = some v) ∧
        ∀ v, members.lookup name = some v → Shape.Admits rules shape v)
  | [] => by simp [checkFields]
  | (name, .mk required shape) :: rest => by
    have ih := checkFields_eq_ok_iff rules members rest
    have hHead : checkFields rules members ((name, .mk required shape) :: rest) = .ok () ↔
        ((required = true → ∃ v, members.lookup name = some v) ∧
          ∀ v, members.lookup name = some v → Shape.Admits rules shape v) ∧
        checkFields rules members rest = .ok () := by
      rw [checkFields]
      cases hLookup : members.lookup name with
      | none => cases required <;> simp [Field.required]
      | some v =>
        have hShape := checkShape_eq_ok_iff rules shape v
        have hUnder : under (.field name) (checkShape rules shape v) = .ok () ↔
            checkShape rules shape v = .ok () := under_eq_ok_iff
        change (match under (.field name) (checkShape rules shape v) with
          | .ok () => checkFields rules members rest
          | .error f => .error f) = .ok () ↔ _
        cases h : under (.field name) (checkShape rules shape v) with
        | ok => simp [← hShape, hUnder.mp h]
        | error f =>
          have hFalse : checkShape rules shape v ≠ .ok () := by
            intro hOk
            rw [hUnder.mpr hOk] at h
            cases h
          simp [← hShape, hFalse]
    rw [hHead, ih]
    constructor
    · rintro ⟨h, hRest⟩ n r s hMem
      rcases List.mem_cons.mp hMem with hEq | hMem
      · cases hEq
        exact h
      · exact hRest n r s hMem
    · intro h
      exact ⟨h name required shape List.mem_cons_self,
        fun n r s hMem => h n r s (List.mem_cons_of_mem _ hMem)⟩

theorem checkSchema_eq_ok_iff (rules : Rules) :
    (schema : Schema) → (members : List (String × Value)) →
      (checkSchema rules schema members = .ok () ↔ Schema.AdmitsMembers rules schema members)
  | .mk fields, members => by
    have h := checkFields_eq_ok_iff rules members fields
    rw [checkSchema]
    split
    · next hFields =>
      have hFields := h.mp hFields
      rw [checkKeys_eq_ok_iff]
      constructor
      · intro declared
        exact ⟨fun name shape hMem => (hFields name true shape hMem).1 rfl,
          fun name required shape v hMem => (hFields name required shape hMem).2 v, declared⟩
      · rintro ⟨-, -, declared⟩
        exact declared
    · next f hFields =>
      refine iff_of_false nofun ?_
      rintro ⟨present, conform, -⟩
      rw [h.mpr fun name required shape hMem => ⟨fun hr => present name shape (hr ▸ hMem),
        fun v => conform name required shape v hMem⟩] at hFields
      cases hFields

theorem checkShape_eq_ok_iff (rules : Rules) : (shape : Shape) → (v : Value) →
    (checkShape rules shape v = .ok () ↔ Shape.Admits rules shape v)
  | .text limits, v => checkShape_text_iff
  | .number bounds, v => checkShape_bounds_iff rfl rfl fun c hc => by
    cases hc <;> exact ⟨_, rfl, rfl⟩
  | .double bounds, v => checkShape_bounds_iff rfl rfl fun c hc => by
    cases hc
    exact ⟨_, rfl, rfl⟩
  | .object (some schema), v => by
    have h := checkSchema_eq_ok_iff rules schema
    apply checkShape_iff_of_classifies
    intro c hc
    cases hc with
    | object members =>
      change checkSchema rules schema members = .ok () ↔ _
      rw [h]
      constructor
      · intro h
        refine ⟨⟨_, .object members⟩, nofun, nofun, ?_, nofun⟩
        rintro _ _ ⟨⟩ ⟨⟩
        exact h
      · rintro ⟨-, -, -, h, -⟩
        exact h schema members rfl rfl
  | .array (some items), v => by
    have h := checkItem_eq_ok_iff rules items
    apply checkShape_iff_of_classifies
    intro c hc
    cases hc with
    | array vs =>
      change checkElements (checkItem rules items) 0 vs = .ok () ↔ _
      rw [checkElements_eq_ok_iff]
      simp only [h]
      constructor
      · intro h
        refine ⟨⟨_, .array vs⟩, nofun, nofun, nofun, ?_⟩
        rintro _ _ ⟨⟩ ⟨⟩
        exact h
      · rintro ⟨-, -, -, -, h⟩
        exact h items vs rfl rfl
  | .object none, v | .array none, v | .boolean, v | .null, v | .date, v | .timestamp, v =>
    checkShape_plain_iff rfl rfl rfl rfl fun c hc => by
      rw [checkShape, classify_of_classifies hc]
      rfl

theorem checkItem_eq_ok_iff (rules : Rules) : (items : Items) → (v : Value) →
    (checkItem rules items v = .ok () ↔ Items.Admits rules items v)
  | .kind kind, v => by
    rw [checkItem]
    cases hc : classify kind v with
    | ok c => exact iff_of_true rfl (.kind ⟨c, classify_eq_ok_iff.mp hc⟩)
    | error why =>
      refine iff_of_false nofun ?_
      rintro ⟨⟨c, hk⟩⟩
      rw [classify_of_classifies hk] at hc
      cases hc
  | .field (.mk required shape), v => by
    have h := checkShape_eq_ok_iff rules shape v
    change checkShape rules shape v = .ok () ↔ _
    rw [h]
    exact ⟨.field, fun | .field h => h⟩
  | .schema schema, v => by
    have h := checkSchema_eq_ok_iff rules schema
    rw [checkItem]
    cases v with
    | object members =>
      change checkSchema rules schema members = .ok () ↔ _
      rw [h]
      exact ⟨.schema, fun | .schema h => h⟩
    | _ => exact iff_of_false nofun nofun

end

end Validation

/-- Validation is sound and complete: it accepts the data that conforms, and no other. -/
theorem Schema.validate_eq_ok_iff (rules : Rules) (schema : Schema) (data : Value) :
    schema.validate rules data = .ok () ↔ schema.Admits rules data := by
  cases data with
  | object members =>
    rw [validate, Validation.checkSchema_eq_ok_iff]
    constructor
    · intro h
      exact ⟨members, rfl, h⟩
    · rintro ⟨_, ⟨⟩, h⟩
      exact h
  | _ =>
    constructor
    · rintro ⟨⟩
    · rintro ⟨_, ⟨⟩, _⟩

end Intake
