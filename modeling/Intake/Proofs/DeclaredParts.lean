import Intake.Proofs.SameValues

/-! # What validation sees

Data of which a schema declares the same is validated alike, down to the failure, as long as
undeclared keys are let pass: neither the order of the keys of an object nor anything under a key
that its schema does not declare makes a difference.
-/

namespace Intake

mutual

/-- Two values are equal, or they agree in all that a shape goes into. -/
inductive Shape.Agrees : Shape → Value → Value → Prop where
  | equal {shape : Shape} {v w : Value} (h : v.Equal w) : Shape.Agrees shape v w
  | objects {shape : Shape} {schema : Schema} {ms ms' : List (String × Value)}
      (follows : shape.nested? = some schema) (h : Schema.Agrees schema ms ms') :
      Shape.Agrees shape (.object ms) (.object ms')
  | arrays {shape : Shape} {items : Items} {vs ws : List Value}
      (follows : shape.items? = some items) (length : vs.length = ws.length)
      (each : ∀ (i : Nat) v w, vs[i]? = some v → ws[i]? = some w → Items.Agrees items v w) :
      Shape.Agrees shape (.array vs) (.array ws)

inductive Items.Agrees : Items → Value → Value → Prop where
  | equal {items : Items} {v w : Value} (h : v.Equal w) : Items.Agrees items v w
  | field {required : Bool} {shape : Shape} {v w : Value} (h : Shape.Agrees shape v w) :
      Items.Agrees (.field (.mk required shape)) v w
  | schema {schema : Schema} {ms ms' : List (String × Value)} (h : Schema.Agrees schema ms ms') :
      Items.Agrees (.schema schema) (.object ms) (.object ms')

/-- Every declared field is absent from both or present in both, with values that agree. -/
inductive Schema.Agrees : Schema → List (String × Value) → List (String × Value) → Prop where
  | mk {fields : List (String × Field)} {ms ms' : List (String × Value)}
      (absent : ∀ name f, (name, f) ∈ fields → (ms.lookup name = none ↔ ms'.lookup name = none))
      (each : ∀ name required shape v w, (name, Field.mk required shape) ∈ fields →
        ms.lookup name = some v → ms'.lookup name = some w → Shape.Agrees shape v w) :
      Schema.Agrees (.mk fields) ms ms'

end

theorem Schema.Agrees.of_equalMembers {ms ms' : List (String × Value)}
    (h : Value.EqualMembers ms ms') (schema : Schema) : schema.Agrees ms ms' := by
  obtain ⟨fields⟩ := schema
  exact ⟨fun name _ _ => h.keys name, fun _ _ _ _ _ _ hv hw => .equal (h.values hv hw)⟩

/-- Objects that hold the same under all declared keys agree, whatever else they hold. -/
theorem Schema.Agrees.of_lookup {schema : Schema} {ms ms' : List (String × Value)}
    (h : ∀ name f, (name, f) ∈ schema.fields → ms.lookup name = ms'.lookup name) :
    schema.Agrees ms ms' := by
  obtain ⟨fields⟩ := schema
  constructor
  · intro name f hMem
    rw [h name f hMem]
  · intro name required shape v w hMem hv hw
    rw [h name _ hMem, hw] at hv
    exact .equal (.inl (Option.some.inj hv).symm)

theorem Shape.Agrees.beside {shape : Shape} {v w : Value} (h : shape.Agrees v w) :
    Value.Beside (fun a b => ∀ items, shape.items? = some items → items.Agrees a b)
      (fun ms ms' => ∀ schema, shape.nested? = some schema → schema.Agrees ms ms') v w := by
  cases h with
  | equal h =>
    apply h.beside.imp
    · intro a b h items _
      exact .equal h
    · intro ms ms' h schema _
      exact .of_equalMembers h schema
  | objects follows h =>
    apply Value.Beside.objects
    intro schema hSchema
    exact Option.some.inj (follows.symm.trans hSchema) ▸ h
  | arrays follows length each =>
    apply Value.Beside.arrays length
    intro i a b ha hb items hItems
    exact Option.some.inj (follows.symm.trans hItems) ▸ each i a b ha hb

namespace Validation

theorem checkElements_congr {check : Value → Except Failure Unit} {vs ws : List Value}
    (length : vs.length = ws.length)
    (each : ∀ (i : Nat) v w, vs[i]? = some v → ws[i]? = some w → check v = check w) (i : Nat) :
    checkElements check i vs = checkElements check i ws := by
  induction vs generalizing ws i with
  | nil =>
    obtain rfl := List.length_eq_zero_iff.mp length.symm
    rfl
  | cons v rest ih =>
    cases ws with
    | nil => cases length
    | cons w rest' =>
      have hRest := ih (Nat.succ.inj length) (fun k => each (k + 1)) (i + 1)
      rw [checkElements_cons, checkElements_cons, each 0 v w rfl rfl, hRest]

/-- The check of a bare kind goes into nothing. -/
theorem checkItem_kind_of_equal (rules : Rules) (kind : Kind) {v w : Value} (h : v.Equal w) :
    checkItem rules (.kind kind) v = checkItem rules (.kind kind) w := by
  cases h.beside with
  | refl => rfl
  | floats | arrays | objects => cases kind <;> rfl

mutual

theorem checkFields_of_agrees {ms ms' : List (String × Value)} : (fields : List (String × Field)) →
    Schema.Agrees (.mk fields) ms ms' →
      checkFields ⟨false⟩ ms fields = checkFields ⟨false⟩ ms' fields
  | [], _ => rfl
  | (name, .mk required shape) :: rest, h => by
    obtain ⟨absent, each⟩ := h
    have hRest : checkFields ⟨false⟩ ms rest = checkFields ⟨false⟩ ms' rest := by
      apply checkFields_of_agrees rest
      exact ⟨fun n f hMem => absent n f (List.mem_cons_of_mem _ hMem),
        fun n r s v w hMem => each n r s v w (List.mem_cons_of_mem _ hMem)⟩
    have hHead : checkDeclared ⟨false⟩ ms name (.mk required shape) =
        checkDeclared ⟨false⟩ ms' name (.mk required shape) := by
      have hAbsent := absent name _ List.mem_cons_self
      unfold checkDeclared
      cases hv : ms.lookup name with
      | none => rw [hAbsent.mp hv]
      | some v =>
        cases hw : ms'.lookup name with
        | none => cases hv.symm.trans (hAbsent.mpr hw)
        | some w =>
          have hAgrees := each name required shape v w List.mem_cons_self hv hw
          exact congrArg (under (.field name)) (checkShape_of_agrees shape hAgrees)
    rw [checkFields_cons, checkFields_cons, hHead, hRest]

theorem checkSchema_of_agrees : (schema : Schema) → {ms ms' : List (String × Value)} →
    schema.Agrees ms ms' → checkSchema ⟨false⟩ schema ms = checkSchema ⟨false⟩ schema ms'
  | .mk fields, ms, ms', h => by
    rw [checkSchema_mk, checkSchema_mk, checkFields_of_agrees fields h]
    rfl

theorem checkShape_of_agrees : (shape : Shape) → {v w : Value} → shape.Agrees v w →
    checkShape ⟨false⟩ shape v = checkShape ⟨false⟩ shape w
  | .object (some schema), v, w, h => by
    cases h.beside with
    | objects hMembers => exact checkSchema_of_agrees schema (hMembers schema rfl)
    | _ => rfl
  | .array (some items), v, w, h => by
    cases h.beside with
    | arrays length each =>
      exact checkElements_congr length
        (fun i a b ha hb => checkItem_of_agrees items (each i a b ha hb items rfl)) 0
    | _ => rfl
  | .number bounds, v, w, h | .double bounds, v, w, h => by
    cases h.beside with
    | floats hSame => exact congrArg ofLimit (Bounds.check_of_same hSame bounds)
    | _ => rfl
  | .text _, v, w, h | .boolean, v, w, h | .array none, v, w, h | .object none, v, w, h
  | .null, v, w, h | .date, v, w, h | .timestamp, v, w, h => by
    cases h.beside <;> rfl

theorem checkItem_of_agrees : (items : Items) → {v w : Value} → items.Agrees v w →
    checkItem ⟨false⟩ items v = checkItem ⟨false⟩ items w
  | .kind kind, v, w, h => by
    cases h with
    | equal h => exact checkItem_kind_of_equal ⟨false⟩ kind h
  | .field (.mk required shape), v, w, h => by
    cases h with
    | equal h => exact checkShape_of_agrees shape (.equal h)
    | field h => exact checkShape_of_agrees shape h
  | .schema schema, v, w, h => by
    cases h with
    | schema h => exact checkSchema_of_agrees schema h
    | equal h =>
      cases h.beside with
      | objects hMembers => exact checkSchema_of_agrees schema (.of_equalMembers hMembers schema)
      | _ => rfl

end

end Validation

/-- Where undeclared keys are let pass, two data objects that agree in what a schema declares are
validated alike, down to the failure. At every level at which a schema is asked for, objects agree
if they hold the same under the declared keys, so in particular if they differ in the order of their
keys only. -/
theorem Schema.validate_sees_declared (schema : Schema) :
    (∀ ms ms', schema.Agrees ms ms' →
      schema.validate { rejectUnknown := false } (.object ms) =
        schema.validate { rejectUnknown := false } (.object ms')) ∧
    ∀ (level : Schema) (ms ms' : List (String × Value)),
      ((∀ name f, (name, f) ∈ level.fields → ms.lookup name = ms'.lookup name) →
        level.Agrees ms ms') ∧
      ((ms.map Prod.fst).Nodup → ms.Perm ms' → level.Agrees ms ms') := by
  refine ⟨fun ms ms' h => Validation.checkSchema_of_agrees schema h, fun level ms ms' => ?_⟩
  constructor
  · exact Agrees.of_lookup
  · intro distinct hPerm
    apply Agrees.of_lookup
    intro name _ _
    exact lookup_of_perm hPerm distinct name

/-- The second person lacks a name. In the other data keys come in another order, there is a key
besides, and a zero has a sign. -/
theorem Schema.validate_sees_declared_people :
    let person : Schema := .mk [("name", .mk true (.text {})), ("age", .mk false (.number {}))]
    let schema : Schema := .mk
      [("people", .mk true (.array (some (.schema person)))), ("size", .mk true (.double {}))]
    let jane : List (String × Value) := [("name", .text "Jane"), ("age", .int 3)]
    let jane' : List (String × Value) := [("age", .int 3), ("extra", .null), ("name", .text "Jane")]
    let nobody : Value := .object [("age", .int 4)]
    let members : List (String × Value) :=
      [("size", .float Double.zero), ("people", .array [.object jane, nobody])]
    let members' : List (String × Value) :=
      [("people", .array [.object jane', nobody]), ("size", .float ⟨true, 0, by decide⟩)]
    schema.Agrees members members' ∧
      schema.validate { rejectUnknown := false } (.object members) =
        .error ⟨[.field "people", .index 1], .missing "name"⟩ ∧
      schema.validate { rejectUnknown := false } (.object members') =
        .error ⟨[.field "people", .index 1], .missing "name"⟩ := by
  intro person schema jane jane' nobody members members'
  obtain ⟨hSame, hLevel⟩ := validate_sees_declared schema
  have hJane : person.Agrees jane jane' := by
    apply (hLevel person jane jane').1
    intro name f hMem
    simp only [person, fields, List.mem_cons, Prod.mk.injEq, List.not_mem_nil, or_false] at hMem
    rcases hMem with ⟨rfl, -⟩ | ⟨rfl, -⟩ <;> rfl
  have hPeople : Shape.Agrees (.array (some (.schema person)))
      (.array [.object jane, nobody]) (.array [.object jane', nobody]) := by
    refine .arrays rfl rfl fun i v w hv hw => ?_
    rcases i with _ | _ | i
    · cases hv
      cases hw
      exact .schema hJane
    · cases hv
      cases hw
      exact .equal (.inl rfl)
    · cases hv
  have hSize : (Value.float Double.zero).Equal (.float ⟨true, 0, by decide⟩) := by
    refine .inr ⟨?_, rfl⟩
    rintro inner ⟨⟩
  have hAgrees : schema.Agrees members members' := by
    constructor
    · intro name f hMem
      simp only [List.mem_cons, Prod.mk.injEq, List.not_mem_nil, or_false] at hMem
      rcases hMem with ⟨rfl, -⟩ | ⟨rfl, -⟩ <;> simp [members, members', List.lookup_cons]
    · intro name required shape v w hMem hv hw
      simp only [List.mem_cons, Prod.mk.injEq, Field.mk.injEq, List.not_mem_nil, or_false] at hMem
      rcases hMem with ⟨rfl, rfl, rfl⟩ | ⟨rfl, rfl, rfl⟩
      · cases hv
        cases hw
        exact hPeople
      · cases hv
        cases hw
        exact .equal hSize
  have hFirst : schema.validate { rejectUnknown := false } (.object members) =
      .error ⟨[.field "people", .index 1], .missing "name"⟩ := rfl
  exact ⟨hAgrees, hFirst, (hSame members members' hAgrees).symm.trans hFirst⟩

end Intake
