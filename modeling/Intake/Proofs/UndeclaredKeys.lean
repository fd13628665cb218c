import Intake.Proofs.FirstViolation

/-! # Undeclared keys

Refusing undeclared keys adds violations and takes none away, so the two settings of the rule come
apart only where an undeclared key is met before anything else goes wrong. An object is through with
its fields before its keys are looked at, so what is met before is said by the order of the places.
-/

namespace Intake

def Cause.isUnknown : Cause → Bool
  | unknown _ => true
  | _ => false

namespace Failure

def isKnown (f : Failure) : Bool := !f.cause.isUnknown

/-- Where a failure is met. A field that is missing is missed where it is declared. -/
def place (f : Failure) : List DataStep :=
  match f.cause with
  | .missing name => f.path ++ [.field name]
  | _ => f.path

theorem place_within (step : DataStep) (f : Failure) : (f.within step).place = step :: f.place := by
  obtain ⟨path, cause⟩ := f
  cases cause <;> rfl

theorem eq_unknown_of_not_known {f : Failure} (h : f.isKnown = false) :
    ∃ key, f = ⟨f.path, .unknown key⟩ := by
  obtain ⟨path, cause⟩ := f
  cases cause with
  | unknown key => exact ⟨key, rfl⟩
  | _ => cases h

end Failure

namespace Demand

/-- A place is left for good before another is reached: where their paths part, the first goes into
a field that is declared earlier, or into an earlier element. -/
inductive Precedes : Demand → List DataStep → List DataStep → Prop where
  | fields {d : Demand} {s : Schema} {name name' : String} {f f' : Field} {p q : List DataStep}
      (follows : d.schema? = some s) (declared : [(name, f), (name', f')].Sublist s.fields) :
      Precedes d (.field name :: p) (.field name' :: q)
  | elements {d : Demand} {i j : Nat} {p q : List DataStep} (h : i < j) :
      Precedes d (.index i :: p) (.index j :: q)
  | field {d : Demand} {s : Schema} {name : String} {f : Field} {p q : List DataStep}
      (follows : d.schema? = some s) (declared : (name, f) ∈ s.fields)
      (rest : Precedes (.shape f.shape) p q) : Precedes d (.field name :: p) (.field name :: q)
  | element {d : Demand} {items : Items} {i : Nat} {p q : List DataStep}
      (follows : d.items? = some items) (rest : Precedes (ofItems items) p q) :
      Precedes d (.index i :: p) (.index i :: q)

/-- An object that a schema is asked of has a key that the schema does not declare. -/
inductive Undeclared : Demand → Value → List DataStep → String → Prop where
  | mk {d e : Demand} {s : Schema} {v w : Value} {path : List DataStep} {key : String}
      {members : List (String × Value)} (leads : Leads d v path e (.object members))
      (follows : e.schema? = some s) (present : (key, w) ∈ members)
      (undeclared : ∀ f, (key, f) ∉ s.fields) : Undeclared d v path key

theorem undeclared_iff_reports {d : Demand} {v : Value} {path : List DataStep} {key : String} :
    Undeclared d v path key ↔ Reports ⟨true⟩ d v ⟨path, .unknown key⟩ := by
  constructor
  · rintro ⟨leads, follows, present, undeclared⟩
    exact ⟨_, _, leads, .unknown rfl follows present undeclared⟩
  · rintro ⟨e, w, leads, violates⟩
    cases violates with
    | unknown _ follows present undeclared => exact ⟨leads, follows, present, undeclared⟩

end Demand

section Filtering

-- What is left of the violations without those of undeclared keys is what there is to find where
-- undeclared keys are let pass.

theorem Failure.filter_ofElements {list list' : Value → List Failure}
    (h : ∀ v, (list v).filter isKnown = list' v) (i : Nat) (vs : List Value) :
    (ofElements list i vs).filter isKnown = ofElements list' i vs := by
  induction vs generalizing i with
  | nil => rfl
  | cons v rest ih =>
    rw [ofElements, ofElements, List.filter_append, ih, List.filter_map, ← h v]
    rfl

theorem Failure.filter_ofKeys (schema : Schema) (members : List (String × Value)) :
    (ofKeys ⟨true⟩ schema members).filter isKnown = ofKeys ⟨false⟩ schema members := by
  apply List.filter_eq_nil_iff.mpr
  intro f hf
  obtain ⟨-, key, v, -, -, rfl⟩ := mem_ofKeys_iff.mp hf
  exact Bool.false_ne_true

theorem Shape.filter_violations_of {shape : Shape} {v : Value}
    (h : (shape.inner ⟨true⟩ v).filter Failure.isKnown = shape.inner ⟨false⟩ v) :
    (shape.violations ⟨true⟩ v).filter Failure.isKnown = shape.violations ⟨false⟩ v := by
  cases hc : classify shape.kind v with
  | error why =>
    rw [violations_of_mismatch hc, violations_of_mismatch hc]
    rfl
  | ok c =>
    have hc := classify_eq_ok_iff.mp hc
    have hLimits (ls : List Limit) : (ls.map fun l => Failure.here (.limit l)).filter
        Failure.isKnown = ls.map fun l => .here (.limit l) := by
      apply List.filter_eq_self.mpr
      intro f hf
      obtain ⟨l, -, rfl⟩ := List.mem_map.mp hf
      rfl
    rw [violations_of_classifies hc, violations_of_classifies hc, List.filter_append, hLimits, h]

mutual

theorem filter_fields (members : List (String × Value)) : (fields : List (String × Field)) →
    (Field.violations ⟨true⟩ members fields).filter Failure.isKnown =
      Field.violations ⟨false⟩ members fields
  | [] => rfl
  | (name, .mk required shape) :: rest => by
    have ih := filter_fields members rest
    rw [Field.violations, Field.violations, List.filter_append, ih]
    congr 1
    cases members.lookup name with
    | none => cases required <;> rfl
    | some v =>
      have hShape := filter_shape shape v
      dsimp only
      rw [List.filter_map, ← hShape]
      rfl

theorem filter_schema : (schema : Schema) → (members : List (String × Value)) →
    (schema.violations ⟨true⟩ members).filter Failure.isKnown = schema.violations ⟨false⟩ members
  | .mk fields, members => by
    rw [Schema.violations, Schema.violations, List.filter_append, filter_fields members fields,
      Failure.filter_ofKeys]

theorem filter_shape : (shape : Shape) → (v : Value) →
    (shape.violations ⟨true⟩ v).filter Failure.isKnown = shape.violations ⟨false⟩ v
  | .object (some schema), v => Shape.filter_violations_of <| by
    cases v with
    | object members => exact filter_schema schema members
    | _ => rfl
  | .array (some items), v => Shape.filter_violations_of <| by
    cases v with
    | array vs => exact Failure.filter_ofElements (filter_items items) 0 vs
    | _ => rfl
  | .text _, _ | .number _, _ | .double _, _ | .boolean, _ | .array none, _ | .object none, _
  | .null, _ | .date, _ | .timestamp, _ => Shape.filter_violations_of rfl

theorem filter_items : (items : Items) → (v : Value) →
    (items.violations ⟨true⟩ v).filter Failure.isKnown = items.violations ⟨false⟩ v
  | .kind kind, v => by
    rw [Items.violations, Items.violations]
    cases classify kind v <;> rfl
  | .field (.mk required shape), v => by
    rw [Items.violations, Items.violations]
    exact filter_shape shape v
  | .schema schema, v => by
    cases v with
    | object members => exact filter_schema schema members
    | _ => rfl

end

end Filtering

/-- Undeclared keys come in front of those violations only that are met later. -/
def InOrder (d : Demand) (fs : List Failure) : Prop :=
  fs.Pairwise fun f g => f.isKnown = false → g.isKnown = true → d.Precedes f.place g.place

namespace InOrder

variable {d : Demand} {fs gs : List Failure}

theorem of_known (h : ∀ f ∈ fs, f.isKnown = true) : InOrder d fs := by
  apply List.pairwise_iff_forall_sublist.mpr
  intro f g hSub hUnknown
  rw [h f (hSub.subset List.mem_cons_self)] at hUnknown
  cases hUnknown

theorem of_unknown (h : ∀ f ∈ fs, f.isKnown = false) : InOrder d fs := by
  apply List.pairwise_iff_forall_sublist.mpr
  intro f g hSub _ hKnown
  rw [h g (hSub.subset (List.mem_cons_of_mem _ List.mem_cons_self))] at hKnown
  cases hKnown

theorem append (first : InOrder d fs) (second : InOrder d gs)
    (across : ∀ f ∈ fs, ∀ g ∈ gs, f.isKnown = false → g.isKnown = true →
      d.Precedes f.place g.place) : InOrder d (fs ++ gs) :=
  List.pairwise_append.mpr ⟨first, second, across⟩

theorem within_field {s : Schema} {name : String} {f : Field} (follows : d.schema? = some s)
    (declared : (name, f) ∈ s.fields) (h : InOrder (.shape f.shape) fs) :
    InOrder d (fs.map (Failure.within (.field name))) := by
  apply List.pairwise_map.mpr
  apply h.imp
  intro f g hOrder hUnknown hKnown
  rw [Failure.place_within, Failure.place_within]
  exact .field follows declared (hOrder hUnknown hKnown)

theorem within_index {items : Items} {i : Nat} (follows : d.items? = some items)
    (h : InOrder (.ofItems items) fs) : InOrder d (fs.map (Failure.within (.index i))) := by
  apply List.pairwise_map.mpr
  apply h.imp
  intro f g hOrder hUnknown hKnown
  rw [Failure.place_within, Failure.place_within]
  exact .element follows (hOrder hUnknown hKnown)

theorem ofElements {items : Items} {list : Value → List Failure} (follows : d.items? = some items)
    (h : ∀ v, InOrder (.ofItems items) (list v)) (i : Nat) (vs : List Value) :
    InOrder d (Failure.ofElements list i vs) := by
  induction vs generalizing i with
  | nil => exact .nil
  | cons v rest ih =>
    refine ((h v).within_index follows).append (ih (i + 1)) ?_
    intro f hf g hg _ _
    obtain ⟨f, -, rfl⟩ := List.mem_map.mp hf
    obtain ⟨k, w, g, -, -, rfl⟩ := Failure.mem_ofElements_iff.mp hg
    rw [Failure.place_within, Failure.place_within]
    apply Demand.Precedes.elements
    omega

theorem violations_of {rules : Rules} {shape : Shape} {v : Value}
    (h : InOrder (.shape shape) (shape.inner rules v)) :
    InOrder (.shape shape) (shape.violations rules v) := by
  cases hc : classify shape.kind v with
  | error why =>
    rw [Shape.violations_of_mismatch hc]
    exact List.pairwise_singleton _ _
  | ok c =>
    have hLimits : ∀ f ∈ (Limit.ofShape shape v).map fun l => Failure.here (.limit l),
        f.isKnown = true := by
      intro f hf
      obtain ⟨l, -, rfl⟩ := List.mem_map.mp hf
      rfl
    rw [Shape.violations_of_classifies (classify_eq_ok_iff.mp hc)]
    refine (of_known hLimits).append h ?_
    intro f hf g _ hUnknown
    rw [hLimits f hf] at hUnknown
    cases hUnknown

end InOrder

theorem Field.violations_cons (rules : Rules) (members : List (String × Value))
    (m : String × Field) (rest : List (String × Field)) :
    Field.violations rules members (m :: rest) =
      Field.violations rules members [m] ++ Field.violations rules members rest := by
  obtain ⟨name, required, shape⟩ := m
  rw [Field.violations, Field.violations, Field.violations, List.append_nil]

theorem Field.place_of_mem {rules : Rules} {members : List (String × Value)}
    {fields : List (String × Field)} {g : Failure}
    (h : g ∈ Field.violations rules members fields) :
    ∃ name f q, (name, f) ∈ fields ∧ g.place = .field name :: q := by
  induction fields with
  | nil => cases h
  | cons m rest ih =>
    obtain ⟨name, required, shape⟩ := m
    rw [Field.violations] at h
    rcases List.mem_append.mp h with h | h
    · refine ⟨name, .mk required shape, ?_⟩
      cases hLookup : members.lookup name with
      | none =>
        cases required with
        | true =>
          rw [hLookup] at h
          obtain rfl := List.mem_singleton.mp h
          exact ⟨[], List.mem_cons_self, rfl⟩
        | false =>
          rw [hLookup] at h
          cases h
      | some v =>
        rw [hLookup] at h
        obtain ⟨g, -, rfl⟩ := List.mem_map.mp h
        exact ⟨g.place, List.mem_cons_self, Failure.place_within _ _⟩
    · obtain ⟨n, f, q, hMem, hPlace⟩ := ih h
      exact ⟨n, f, q, List.mem_cons_of_mem _ hMem, hPlace⟩

mutual

theorem inOrder_fields {d : Demand} {s : Schema} (rules : Rules) (follows : d.schema? = some s)
    (members : List (String × Value)) : (fields : List (String × Field)) →
    fields.Sublist s.fields → InOrder d (Field.violations rules members fields)
  | [], _ => .nil
  | (name, .mk required shape) :: rest, hFields => by
    have hDeclared : (name, .mk required shape) ∈ s.fields := hFields.subset List.mem_cons_self
    have hHead : InOrder d (Field.violations rules members [(name, .mk required shape)]) := by
      rw [Field.violations, Field.violations, List.append_nil]
      cases members.lookup name with
      | none =>
        cases required with
        | true => exact InOrder.of_known (by simp [Failure.here, Failure.isKnown, Cause.isUnknown])
        | false => exact .nil
      | some v => exact (inOrder_shape rules shape v).within_field follows hDeclared
    have hRest : InOrder d (Field.violations rules members rest) :=
      inOrder_fields rules follows members rest ((List.sublist_cons_self _ _).trans hFields)
    rw [Field.violations_cons]
    refine hHead.append hRest fun f hf g hg _ _ => ?_
    obtain ⟨n, e, p, hMem, hPlace⟩ := Field.place_of_mem hf
    obtain ⟨n', e', q, hMem', hPlace'⟩ := Field.place_of_mem hg
    rw [hPlace, hPlace']
    apply Demand.Precedes.fields follows
    rw [List.mem_singleton.mp hMem]
    exact ((List.singleton_sublist.mpr hMem').cons_cons _).trans hFields

theorem inOrder_schema {d : Demand} (rules : Rules) : (s : Schema) → d.schema? = some s →
    (members : List (String × Value)) → InOrder d (s.violations rules members)
  | .mk fields, follows, members => by
    have hFields := inOrder_fields rules follows members fields (List.Sublist.refl _)
    have hKeys : ∀ g ∈ Failure.ofKeys rules (.mk fields) members, g.isKnown = false := by
      intro g hg
      obtain ⟨-, key, v, -, -, rfl⟩ := Failure.mem_ofKeys_iff.mp hg
      rfl
    rw [Schema.violations]
    refine hFields.append (InOrder.of_unknown hKeys) ?_
    intro f _ g hg _ hKnown
    rw [hKeys g hg] at hKnown
    cases hKnown

theorem inOrder_shape (rules : Rules) : (shape : Shape) → (v : Value) →
    InOrder (.shape shape) (shape.violations rules v)
  | .object (some schema), v => InOrder.violations_of <| by
    cases v with
    | object members => exact inOrder_schema rules schema rfl members
    | _ => exact .nil
  | .array (some items), v => InOrder.violations_of <| by
    cases v with
    | array vs => exact InOrder.ofElements rfl (inOrder_items rules items) 0 vs
    | _ => exact .nil
  | .text _, _ | .number _, _ | .double _, _ | .boolean, _ | .array none, _ | .object none, _
  | .null, _ | .date, _ | .timestamp, _ => InOrder.violations_of .nil

theorem inOrder_items (rules : Rules) : (items : Items) → (v : Value) →
    InOrder (.ofItems items) (items.violations rules v)
  | .kind kind, v => by
    rw [Items.violations]
    cases classify kind v with
    | ok c => exact .nil
    | error why => exact List.pairwise_singleton _ _
  | .field (.mk required shape), v => by
    rw [Items.violations]
    exact inOrder_shape rules shape v
  | .schema schema, v => by
    cases v with
    | object members => exact inOrder_schema rules schema rfl members
    | _ => exact List.pairwise_singleton _ _

end

namespace Schema

theorem validate_object (rules : Rules) (schema : Schema) (members : List (String × Value)) :
    schema.validate rules (.object members) = firstOf (schema.violations rules members) :=
  Validation.checkSchema_eq_firstOf rules schema members

/-- Undeclared keys are found where they are refused, and all of them are. -/
theorem mem_violations_iff_undeclared {schema : Schema} {members : List (String × Value)}
    {path : List DataStep} {key : String} :
    ⟨path, .unknown key⟩ ∈ schema.violations ⟨true⟩ members ↔
      Demand.Undeclared (.schema schema) (.object members) path key := by
  rw [Demand.undeclared_iff_reports]
  constructor
  · exact reports_of_mem_schema schema rfl members _
  · rintro ⟨e, w, leads, violates⟩
    exact Demand.mem_of_leads leads violates

/-- Refusing undeclared keys against letting them pass. Data passes the stricter check if it passes
the other and no object that is checked against a schema has a key which that does not declare. A
failure of the stricter check that is not about such a key is the failure of the other; a failure of
the other is that of the stricter check, unless that meets an undeclared key before. -/
theorem validate_refusing_unknown (schema : Schema) (data : Value) :
    let lax := schema.validate { rejectUnknown := false } data
    let strict := schema.validate { rejectUnknown := true } data
    (strict = .ok () ↔
      lax = .ok () ∧ ∀ path key, ¬Demand.Undeclared (.schema schema) data path key) ∧
    (∀ f, strict = .error f → f.cause.isUnknown = false → lax = .error f) ∧
    ∀ e, lax = .error e → strict = .error e ∨
      ∃ path key, strict = .error ⟨path, .unknown key⟩ ∧
        Demand.Undeclared (.schema schema) data path key ∧
        Demand.Precedes (.schema schema) path e.place := by
  cases data with
  | object members =>
    intro lax strict
    have hFound := @mem_violations_iff_undeclared schema members
    have hOrder : InOrder (.schema schema) (schema.violations ⟨true⟩ members) :=
      inOrder_schema ⟨true⟩ schema rfl members
    have hLax : lax = firstOf ((schema.violations ⟨true⟩ members).filter Failure.isKnown) := by
      rw [filter_schema, ← validate_object]
    have hStrict : strict = firstOf (schema.violations ⟨true⟩ members) := validate_object ..
    rw [hLax, hStrict]
    generalize schema.violations ⟨true⟩ members = all at hFound hOrder ⊢
    refine ⟨⟨fun h => ?_, ?_⟩, fun f h hCause => ?_, fun e h => ?_⟩
    · obtain rfl := firstOf_eq_ok_iff.mp h
      exact ⟨rfl, fun path key hUndeclared => List.not_mem_nil (hFound.mpr hUndeclared)⟩
    · rintro ⟨h, hNone⟩
      apply firstOf_eq_ok_iff.mpr
      apply List.eq_nil_iff_forall_not_mem.mpr
      intro f hf
      have hUnknown : f.isKnown = false := by
        simpa using List.filter_eq_nil_iff.mp (firstOf_eq_ok_iff.mp h) f hf
      obtain ⟨key, hEq⟩ := Failure.eq_unknown_of_not_known hUnknown
      exact hNone f.path key (hFound.mp (hEq ▸ hf))
    · obtain ⟨rest, rfl⟩ := List.head?_eq_some_iff.mp (firstOf_eq_error_iff.mp h)
      rw [List.filter_cons_of_pos (by simp [Failure.isKnown, hCause])]
      rfl
    · rw [firstOf_eq_error_iff, List.head?_filter, List.find?_eq_some_iff_append] at h
      obtain ⟨hKnown, front, back, rfl, hFront⟩ := h
      cases front with
      | nil => exact .inl rfl
      | cons f front =>
        have hUnknown : f.isKnown = false := by simpa using hFront f List.mem_cons_self
        obtain ⟨key, hEq⟩ := Failure.eq_unknown_of_not_known hUnknown
        refine .inr ⟨f.path, key, hEq ▸ rfl, hFound.mp (hEq ▸ List.mem_cons_self), ?_⟩
        have hBefore := (List.pairwise_cons.mp hOrder).1 e (by simp) hUnknown hKnown
        rw [hEq] at hBefore
        exact hBefore
  | _ =>
    refine ⟨iff_of_false nofun ?_, fun f h _ => h, fun e h => .inl h⟩
    rintro ⟨⟨⟩, -⟩

/-- An undeclared key of the first person is met before the name that the second person lacks. -/
theorem validate_refusing_unknown_first_person :
    let person : Schema := .mk [("name", .mk true (.text {}))]
    let schema : Schema := .mk [("people", .mk true (.array (some (.schema person))))]
    let data : Value := .object
      [("people", .array [.object [("age", .null), ("name", .text "Jane")], .object []])]
    schema.validate { rejectUnknown := false } data =
        .error ⟨[.field "people", .index 1], .missing "name"⟩ ∧
      schema.validate { rejectUnknown := true } data =
        .error ⟨[.field "people", .index 0], .unknown "age"⟩ ∧
      Demand.Undeclared (.schema schema) data [.field "people", .index 0] "age" ∧
      Demand.Precedes (.schema schema) [.field "people", .index 0]
        [.field "people", .index 1, .field "name"] := by
  intro person schema data
  have hLax : schema.validate { rejectUnknown := false } data =
      .error ⟨[.field "people", .index 1], .missing "name"⟩ := rfl
  have hStrict : schema.validate { rejectUnknown := true } data =
      .error ⟨[.field "people", .index 0], .unknown "age"⟩ := rfl
  refine ⟨hLax, hStrict, ?_⟩
  obtain ⟨-, -, hLater⟩ := validate_refusing_unknown schema data
  rcases hLater _ hLax with hSame | ⟨path, key, hMet, hUndeclared, hPrecedes⟩
  · cases hStrict.symm.trans hSame
  · cases hStrict.symm.trans hMet
    exact ⟨hUndeclared, hPrecedes⟩

end Schema

end Intake
