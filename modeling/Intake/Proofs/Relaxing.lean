import Intake.Proofs.Conformance
import Mathlib.Logic.Relation

/-! # Relaxed schemas

A schema is relaxed at one place by asking less there: of a limit, of a kind, of what an object or
an array holds, or of the presence of a field. Fields may go or change places only where undeclared
keys are let pass. Data that conforms to a schema conforms to every schema that it is relaxed to.
-/

namespace Intake

/-- A limit on texts is dropped or moved out. -/
inductive TextLimits.Relaxed (limits : TextLimits) : TextLimits → Prop where
  | dropPattern : Relaxed limits { limits with pattern := none }
  | dropMinLength : Relaxed limits { limits with minLength := none }
  | dropMaxLength : Relaxed limits { limits with maxLength := none }
  | lowerMinLength {n m : Nat} (set : limits.minLength = some n) (lower : m < n) :
    Relaxed limits { limits with minLength := some m }
  | raiseMaxLength {n m : Nat} (set : limits.maxLength = some n) (higher : n < m) :
    Relaxed limits { limits with maxLength := some m }

inductive Bounds.Relaxed (bounds : Bounds) : Bounds → Prop where
  | dropMinimum : Relaxed bounds { bounds with minimum := none }
  | dropMaximum : Relaxed bounds { bounds with maximum := none }
  | lowerMinimum {a b : Double} (set : bounds.minimum = some b) (lower : a.lt b = true) :
    Relaxed bounds { bounds with minimum := some a }
  | raiseMaximum {a b : Double} (set : bounds.maximum = some b) (higher : b.lt a = true) :
    Relaxed bounds { bounds with maximum := some a }

mutual

inductive Shape.Relaxed (rules : Rules) : Shape → Shape → Prop where
  | text {limits limits' : TextLimits} (h : limits.Relaxed limits') :
    Shape.Relaxed rules (.text limits) (.text limits')
  | number {bounds bounds' : Bounds} (h : bounds.Relaxed bounds') :
    Shape.Relaxed rules (.number bounds) (.number bounds')
  | double {bounds bounds' : Bounds} (h : bounds.Relaxed bounds') :
    Shape.Relaxed rules (.double bounds) (.double bounds')
  | doubleToNumber (bounds : Bounds) : Shape.Relaxed rules (.double bounds) (.number bounds)
  | dropNested (schema : Schema) : Shape.Relaxed rules (.object (some schema)) (.object none)
  | nested {schema schema' : Schema} (h : Schema.Relaxed rules schema schema') :
    Shape.Relaxed rules (.object (some schema)) (.object (some schema'))
  | dropItems (items : Items) : Shape.Relaxed rules (.array (some items)) (.array none)
  | items {items items' : Items} (h : Items.Relaxed rules items items') :
    Shape.Relaxed rules (.array (some items)) (.array (some items'))

/-- Without its schema an element is still to be an object. -/
inductive Items.Relaxed (rules : Rules) : Items → Items → Prop where
  | doubleToNumber : Items.Relaxed rules (.kind .double) (.kind .number)
  | field {f f' : Field} (h : Field.Relaxed rules f f') : Items.Relaxed rules (.field f) (.field f')
  | dropSchema (schema : Schema) : Items.Relaxed rules (.schema schema) (.kind .object)
  | schema {schema schema' : Schema} (h : Schema.Relaxed rules schema schema') :
    Items.Relaxed rules (.schema schema) (.schema schema')

inductive Field.Relaxed (rules : Rules) : Field → Field → Prop where
  | optional (shape : Shape) : Field.Relaxed rules (.mk true shape) (.mk false shape)
  | shape {required : Bool} {shape shape' : Shape} (h : Shape.Relaxed rules shape shape') :
    Field.Relaxed rules (.mk required shape) (.mk required shape')

inductive Schema.Relaxed (rules : Rules) : Schema → Schema → Prop where
  | field (front back : List (String × Field)) (name : String) {f f' : Field}
    (h : Field.Relaxed rules f f') :
    Schema.Relaxed rules (.mk (front ++ (name, f) :: back)) (.mk (front ++ (name, f') :: back))
  | remove (front back : List (String × Field)) (m : String × Field)
    (letPass : rules.rejectUnknown = false) :
    Schema.Relaxed rules (.mk (front ++ m :: back)) (.mk (front ++ back))
  | reorder {fields fields' : List (String × Field)} (letPass : rules.rejectUnknown = false)
    (h : fields.Perm fields') : Schema.Relaxed rules (.mk fields) (.mk fields')

end

theorem Double.lt_trans {x y z : Double} (h : x.lt y = true) (h' : y.lt z = true) :
    x.lt z = true := by
  simp only [lt, Bool.and_eq_true, Bool.not_eq_true', decide_eq_true_eq] at *
  obtain ⟨⟨hx, -⟩, hLower⟩ := h
  obtain ⟨⟨-, hz⟩, hHigher⟩ := h'
  exact ⟨⟨hx, hz⟩, Int.lt_trans hLower hHigher⟩

theorem TextLimits.Admits.relaxed {limits limits' : TextLimits} {s : String}
    (h : limits.Admits s) (relaxed : limits.Relaxed limits') : limits'.Admits s := by
  obtain ⟨pattern, minLength, maxLength⟩ := h
  cases relaxed with
  | dropPattern => exact ⟨nofun, minLength, maxLength⟩
  | dropMinLength => exact ⟨pattern, nofun, maxLength⟩
  | dropMaxLength => exact ⟨pattern, minLength, nofun⟩
  | lowerMinLength set lower =>
    refine ⟨pattern, ?_, maxLength⟩
    rintro _ ⟨⟩
    exact Nat.le_trans (Nat.le_of_lt lower) (minLength _ set)
  | raiseMaxLength set higher =>
    refine ⟨pattern, minLength, ?_⟩
    rintro _ ⟨⟩
    exact Nat.le_trans (maxLength _ set) (Nat.le_of_lt higher)

theorem Bounds.Admits.relaxed {bounds bounds' : Bounds} {x : Double} (h : bounds.Admits x)
    (relaxed : bounds.Relaxed bounds') : bounds'.Admits x := by
  obtain ⟨minimum, maximum⟩ := h
  cases relaxed with
  | dropMinimum => exact ⟨nofun, maximum⟩
  | dropMaximum => exact ⟨minimum, nofun⟩
  | lowerMinimum set lower =>
    refine ⟨?_, maximum⟩
    rintro _ ⟨⟩
    apply Bool.eq_false_iff.mpr
    intro hBelow
    have hFar := Double.lt_trans hBelow lower
    rw [minimum _ set] at hFar
    cases hFar
  | raiseMaximum set higher =>
    refine ⟨minimum, ?_⟩
    rintro _ ⟨⟩
    apply Bool.eq_false_iff.mpr
    intro hAbove
    have hFar := Double.lt_trans higher hAbove
    rw [maximum _ set] at hFar
    cases hFar

theorem Kind.Admits.number_of_double {v : Value} (h : Kind.double.Admits v) :
    Kind.number.Admits v := by
  obtain ⟨_, hDouble⟩ := h
  cases hDouble with
  | double x => exact ⟨_, .number x⟩

theorem Items.admits_field_iff {rules : Rules} {f : Field} {v : Value} :
    (Items.field f).Admits rules v ↔ f.shape.Admits rules v := by
  obtain ⟨required, shape⟩ := f
  constructor
  · rintro ⟨⟩
    assumption
  · exact .field

/-- A shape that asks for less in each of its parts admits what the other admits. -/
theorem Shape.Admits.weaken {rules : Rules} {shape shape' : Shape} {v : Value}
    (h : shape.Admits rules v) (kind : shape.kind.Admits v → shape'.kind.Admits v)
    (text : ∀ s, shape.textLimits.Admits s → shape'.textLimits.Admits s)
    (bounds : ∀ x, shape.bounds.Admits x → shape'.bounds.Admits x)
    (nested : ∀ schema', shape'.nested? = some schema' → ∃ schema, shape.nested? = some schema ∧
      ∀ members, schema.AdmitsMembers rules members → schema'.AdmitsMembers rules members)
    (items : ∀ items', shape'.items? = some items' → ∃ items, shape.items? = some items ∧
      ∀ w, items.Admits rules w → items'.Admits rules w) : shape'.Admits rules v := by
  obtain ⟨hKind, hText, hNumber, hNested, hItems⟩ := h
  refine ⟨kind hKind, fun s hs => text s (hText s hs), fun x hx => bounds x (hNumber x hx), ?_, ?_⟩
  · intro schema' members hSchema' hv
    obtain ⟨schema, hSchema, hMembers⟩ := nested schema' hSchema'
    exact hMembers members (hNested schema members hSchema hv)
  · intro items' vs hItems' hv w hw
    obtain ⟨items, hFound, hEach⟩ := items items' hItems'
    exact hEach w (hItems items vs hFound hv w hw)

/-- A schema admits what another admits if each of its fields asks for no more than a field of that
name does there. -/
theorem Schema.AdmitsMembers.weaken {rules : Rules} {fields fields' : List (String × Field)}
    {members : List (String × Value)} (h : Schema.AdmitsMembers rules (.mk fields) members)
    (each : ∀ name f', (name, f') ∈ fields' → ∃ f, (name, f) ∈ fields ∧
      (f'.required = true → f.required = true) ∧
      ∀ v, f.shape.Admits rules v → f'.shape.Admits rules v)
    (keys : rules.rejectUnknown = true →
      ∀ name f, (name, f) ∈ fields → ∃ f', (name, f') ∈ fields') :
    Schema.AdmitsMembers rules (.mk fields') members := by
  obtain ⟨present, conform, declared⟩ := h
  refine ⟨?_, ?_, ?_⟩
  · intro name shape' hMem
    obtain ⟨⟨required, shape⟩, hOld, hRequired, -⟩ := each name _ hMem
    obtain rfl : required = true := hRequired rfl
    exact present name shape hOld
  · intro name required' shape' v hMem hv
    obtain ⟨⟨required, shape⟩, hOld, -, hShape⟩ := each name _ hMem
    exact hShape v (conform name required shape v hOld hv)
  · intro hRules key v hMem
    obtain ⟨f, hOld⟩ := declared hRules key v hMem
    exact keys hRules key f hOld

theorem mem_around_iff {α : Type} {front back : List (String × α)} {name n : String} {a b : α} :
    (n, b) ∈ front ++ (name, a) :: back ↔ n = name ∧ b = a ∨ (n, b) ∈ front ++ back := by
  rw [List.mem_append, List.mem_cons, Prod.mk.injEq, List.mem_append, or_left_comm]

-- One relaxation, by the place where it is made.
mutual

theorem Shape.Relaxed.admits {rules : Rules} {shape shape' : Shape} :
    shape.Relaxed rules shape' → ∀ v, shape.Admits rules v → shape'.Admits rules v
  | .text h, _, hv => hv.weaken id (fun _ hs => hs.relaxed h) (fun _ => id) nofun nofun
  | .number h, _, hv | .double h, _, hv =>
    hv.weaken id (fun _ => id) (fun _ hx => hx.relaxed h) nofun nofun
  | .doubleToNumber _, _, hv =>
    hv.weaken Kind.Admits.number_of_double (fun _ => id) (fun _ => id) nofun nofun
  | .dropNested _, _, hv | .dropItems _, _, hv =>
    hv.weaken id (fun _ => id) (fun _ => id) nofun nofun
  | .nested h, _, hv => by
    refine hv.weaken id (fun _ => id) (fun _ => id) ?_ nofun
    rintro _ ⟨⟩
    exact ⟨_, rfl, h.admits⟩
  | .items h, _, hv => by
    refine hv.weaken id (fun _ => id) (fun _ => id) nofun ?_
    rintro _ ⟨⟩
    exact ⟨_, rfl, h.admits⟩

theorem Items.Relaxed.admits {rules : Rules} {items items' : Items} :
    items.Relaxed rules items' → ∀ v, items.Admits rules v → items'.Admits rules v
  | .doubleToNumber, _, .kind h => .kind h.number_of_double
  | .field h, v, hv => Items.admits_field_iff.mpr (h.admits.2 v (Items.admits_field_iff.mp hv))
  | .dropSchema _, _, .schema _ => .kind ⟨_, .object _⟩
  | .schema h, _, .schema hv => .schema (h.admits _ hv)

theorem Field.Relaxed.admits {rules : Rules} {f f' : Field} : f.Relaxed rules f' →
    (f'.required = true → f.required = true) ∧ ∀ v, f.shape.Admits rules v → f'.shape.Admits rules v
  | .optional _ => ⟨nofun, fun _ => id⟩
  | .shape h => ⟨id, h.admits⟩

theorem Schema.Relaxed.admits {rules : Rules} {schema schema' : Schema} :
    schema.Relaxed rules schema' →
      ∀ members, schema.AdmitsMembers rules members → schema'.AdmitsMembers rules members
  | .field front back name h, members, hOld => by
    have hHead := h.admits
    refine hOld.weaken ?_ ?_
    · intro n g' hMem
      rcases mem_around_iff.mp hMem with ⟨rfl, rfl⟩ | hMem
      · exact ⟨_, mem_around_iff.mpr (.inl ⟨rfl, rfl⟩), hHead⟩
      · exact ⟨g', mem_around_iff.mpr (.inr hMem), id, fun _ => id⟩
    · intro _ n g hMem
      rcases mem_around_iff.mp hMem with ⟨rfl, rfl⟩ | hMem
      · exact ⟨_, mem_around_iff.mpr (.inl ⟨rfl, rfl⟩)⟩
      · exact ⟨g, mem_around_iff.mpr (.inr hMem)⟩
  | .remove front back m letPass, members, hOld => by
    refine hOld.weaken ?_ (by simp [letPass])
    intro n g hMem
    exact ⟨g, mem_around_iff.mpr (.inr hMem), id, fun _ => id⟩
  | .reorder letPass h, members, hOld => by
    refine hOld.weaken ?_ (by simp [letPass])
    intro n g hMem
    exact ⟨g, h.mem_iff.mpr hMem, id, fun _ => id⟩

end

namespace Schema

theorem Relaxed.validate {rules : Rules} {schema schema' : Schema}
    (relaxed : schema.Relaxed rules schema') {data : Value}
    (accepted : schema.validate rules data = .ok ()) : schema'.validate rules data = .ok () := by
  cases data with
  | object members =>
    rw [Schema.validate, Validation.checkSchema_eq_ok_iff] at accepted ⊢
    exact relaxed.admits members accepted
  | _ => cases accepted

/-- Data that passes a check passes it against every schema that comes of relaxing the one checked
against, in any number of places and at any depth. -/
theorem validate_of_relaxations {rules : Rules} {schema schema' : Schema}
    (relaxed : Relation.ReflTransGen (Relaxed rules) schema schema') {data : Value}
    (accepted : schema.validate rules data = .ok ()) : schema'.validate rules data = .ok () := by
  induction relaxed with
  | refl => exact accepted
  | tail _ last ih => exact last.validate ih

/-- A name becomes optional and may be shorter, and the elements of an array become numbers without
a greatest. The check refuses undeclared keys throughout. -/
theorem validate_of_relaxations_name_and_scores :
    let schema : Schema := .mk [("name", .mk true (.text { minLength := some 3 })),
      ("scores", .mk false (.array (some (.field
        (.mk false (.double ⟨some Double.zero, some (.ofInt 1)⟩))))))]
    let schema' : Schema := .mk [("name", .mk false (.text { minLength := some 1 })),
      ("scores", .mk false (.array (some (.field (.mk false (.number ⟨some Double.zero, none⟩))))))]
    let data : Value := .object
      [("scores", .array [.float (.ofRatio false 1 2)]), ("name", .text "Jane")]
    let other : Value := .object [("scores", .array [.int 7])]
    Relation.ReflTransGen (Relaxed ⟨true⟩) schema schema' ∧
      schema.validate ⟨true⟩ data = .ok () ∧ schema'.validate ⟨true⟩ data = .ok () ∧
      schema.validate ⟨true⟩ other = .error ⟨[], .missing "name"⟩ ∧
      schema'.validate ⟨true⟩ other = .ok () := by
  intro schema schema' data other
  have hRelaxed : Relation.ReflTransGen (Relaxed ⟨true⟩) schema schema' := by
    refine .head (.field [] _ _ (.optional _)) ?_
    refine .head (.field [] _ _ (.shape (.text (.lowerMinLength (m := 1) rfl (by decide))))) ?_
    refine .head (.field [_] [] _ (.shape (.items (.field (.shape (.double .dropMaximum)))))) ?_
    exact .single (.field [_] [] _ (.shape (.items (.field (.shape (.doubleToNumber _))))))
  have hData : schema.validate ⟨true⟩ data = .ok () := rfl
  exact ⟨hRelaxed, hData, validate_of_relaxations hRelaxed hData, rfl, rfl⟩

end Schema

end Intake
