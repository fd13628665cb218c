import Intake.Proofs.Conformance

/-! # All violations of a schema

The violations of data are listed in full, each with the path to it: fields in the order of their
declaration, what a field holds behind the field, and undeclared keys behind all fields of their
object. The checks that stop at a failure stop at the first of the list.
-/

namespace Intake

namespace Limit

/-- The limits of a text that it breaks. -/
def ofText (limits : TextLimits) (s : String) : List Limit :=
  (limits.pattern.toList.filter fun p => !p.matchesIn s).map (fun p => pattern p.source) ++
    (limits.minLength.toList.filter fun n => s.length < n).map minLength ++
    (limits.maxLength.toList.filter fun n => n < s.length).map maxLength

def ofNumber (bounds : Bounds) (x : Double) : List Limit :=
  (bounds.minimum.toList.filter fun b => x.lt b).map minimum ++
    (bounds.maximum.toList.filter fun b => b.lt x).map maximum

/-- The limits of a shape that a value breaks, those of texts before those of numbers. -/
def ofShape (shape : Shape) (v : Value) : List Limit :=
  (v.text?.toList.flatMap (ofText shape.textLimits)) ++
    (v.number?.toList.flatMap (ofNumber shape.bounds))

end Limit

namespace Failure

def here (cause : Cause) : Failure := ⟨[], cause⟩

/-- The failures of elements, counted from `i`. -/
def ofElements (list : Value → List Failure) (i : Nat) : List Value → List Failure
  | [] => []
  | v :: rest => (list v).map (within (.index i)) ++ ofElements list (i + 1) rest

/-- The keys that are not declared, in the order of the data. -/
def ofKeys (rules : Rules) (schema : Schema) (members : List (String × Value)) : List Failure :=
  if rules.rejectUnknown then
    (members.filter fun (key, _) => !schema.declares key).map fun (key, _) => here (.unknown key)
  else []

end Failure

mutual

def Schema.violations (rules : Rules) (schema : Schema) (members : List (String × Value)) :
    List Failure :=
  match schema with
  | .mk fields =>
    Field.violations rules members fields ++ Failure.ofKeys rules (.mk fields) members

def Field.violations (rules : Rules) (members : List (String × Value)) :
    List (String × Field) → List Failure
  | [] => []
  | (name, .mk required shape) :: rest =>
    (match members.lookup name with
      | none => if required then [.here (.missing name)] else []
      | some v => (Shape.violations rules shape v).map (Failure.within (.field name))) ++
      Field.violations rules members rest

def Shape.violations (rules : Rules) (shape : Shape) (v : Value) : List Failure :=
  match classify shape.kind v with
  | .error why => [.here (.mismatch shape.kind why)]
  | .ok _ =>
    (Limit.ofShape shape v).map (fun l => .here (.limit l)) ++
      match shape, v with
      | .object (some schema), .object members => Schema.violations rules schema members
      | .array (some items), .array vs => Failure.ofElements (Items.violations rules items) 0 vs
      | _, _ => []

def Items.violations (rules : Rules) (items : Items) (v : Value) : List Failure :=
  match items with
  | .kind kind =>
    match classify kind v with
    | .error why => [.here (.mismatch kind why)]
    | .ok _ => []
  | .field (.mk _ shape) => Shape.violations rules shape v
  | .schema schema =>
    match classify .object v, v with
    | .error why, _ => [.here (.mismatch .object why)]
    | .ok _, .object members => Schema.violations rules schema members
    | .ok _, _ => []

end

namespace Limit

@[simp] theorem ofShape_text (shape : Shape) (s : String) :
    ofShape shape (.text s) = ofText shape.textLimits s := by
  simp [ofShape, Value.text?, Value.number?]

theorem ofShape_number {v : Value} {x : Double} (h : v.number? = some x) (shape : Shape) :
    ofShape shape v = ofNumber shape.bounds x := by
  have hText : v.text? = none := by
    cases v with
    | text s => cases h
    | _ => rfl
  simp [ofShape, hText, h]

theorem ofShape_plain {shape : Shape} (text : shape.textLimits = {}) (bounds : shape.bounds = {})
    (v : Value) : ofShape shape v = [] := by
  simp [ofShape, ofText, ofNumber, text, bounds]

end Limit

/-- The violations inside a value of the right kind. -/
def Shape.inner (rules : Rules) (shape : Shape) (v : Value) : List Failure :=
  match shape, v with
  | .object (some schema), .object members => Schema.violations rules schema members
  | .array (some items), .array vs => Failure.ofElements (Items.violations rules items) 0 vs
  | _, _ => []

theorem Shape.violations_of_mismatch {rules : Rules} {shape : Shape} {v : Value} {why : Mismatch}
    (h : classify shape.kind v = .error why) :
    shape.violations rules v = [.here (.mismatch shape.kind why)] := by
  unfold Shape.violations
  rw [h]

theorem Shape.violations_of_classifies {rules : Rules} {shape : Shape} {v : Value}
    {c : Classified} (h : Classifies shape.kind v c) :
    shape.violations rules v =
      (Limit.ofShape shape v).map (fun l => .here (.limit l)) ++ shape.inner rules v := by
  unfold Shape.violations Shape.inner
  rw [classify_of_classifies h]

theorem TextLimits.check_eq_firstOf (limits : TextLimits) (s : String) :
    limits.check s = firstOf (Limit.ofText limits s) := by
  have hPattern : limits.checkPattern s =
      firstOf ((limits.pattern.toList.filter fun p => !p.matchesIn s).map (.pattern ·.source)) := by
    cases h : limits.pattern with
    | none => simp [checkPattern, h, firstOf]
    | some p => cases hp : p.matchesIn s <;> simp [checkPattern, h, hp, firstOf]
  have hMin : limits.checkMin s =
      firstOf ((limits.minLength.toList.filter fun n => s.length < n).map .minLength) := by
    cases h : limits.minLength with
    | none => simp [checkMin, h, firstOf]
    | some n => by_cases hn : s.length < n <;> simp [checkMin, h, hn, firstOf]
  have hMax : limits.checkMax s =
      firstOf ((limits.maxLength.toList.filter fun n => n < s.length).map .maxLength) := by
    cases h : limits.maxLength with
    | none => simp [checkMax, h, firstOf]
    | some n => by_cases hn : n < s.length <;> simp [checkMax, h, hn, firstOf]
  rw [Limit.ofText, List.append_assoc, firstOf_append, firstOf_append, ← hPattern, ← hMin, ← hMax]
  rfl

theorem Bounds.check_eq_firstOf (bounds : Bounds) (x : Double) :
    bounds.check x = firstOf (Limit.ofNumber bounds x) := by
  have hMin : bounds.checkMin x =
      firstOf ((bounds.minimum.toList.filter fun b => x.lt b).map .minimum) := by
    cases h : bounds.minimum with
    | none => simp [checkMin, h, firstOf]
    | some b => cases hb : x.lt b <;> simp [checkMin, h, hb, firstOf]
  have hMax : bounds.checkMax x =
      firstOf ((bounds.maximum.toList.filter fun b => b.lt x).map .maximum) := by
    cases h : bounds.maximum with
    | none => simp [checkMax, h, firstOf]
    | some b => cases hb : b.lt x <;> simp [checkMax, h, hb, firstOf]
  rw [Limit.ofNumber, firstOf_append, ← hMin, ← hMax]
  rfl

namespace Validation

theorem under_firstOf (step : DataStep) (fs : List Failure) :
    under step (firstOf fs) = firstOf (fs.map (Failure.within step)) := by
  cases fs <;> rfl

theorem ofLimit_firstOf (ls : List Limit) :
    ofLimit (firstOf ls) = firstOf (ls.map fun l => .here (.limit l)) := by
  cases ls <;> rfl

/-- The checks pass a failure on as a bind does. -/
theorem match_firstOf (fs gs : List Failure) :
    (match firstOf fs with
      | .ok () => firstOf gs
      | .error f => .error f) = firstOf (fs ++ gs) := by
  cases fs <;> rfl

theorem checkElements_eq_firstOf {check : Value → Except Failure Unit}
    {list : Value → List Failure} (h : ∀ v, check v = firstOf (list v)) (i : Nat)
    (vs : List Value) : checkElements check i vs = firstOf (Failure.ofElements list i vs) := by
  induction vs generalizing i with
  | nil => rfl
  | cons v rest ih =>
    rw [checkElements, h, under_firstOf, ih]
    exact match_firstOf _ _

theorem checkKeys_eq_firstOf (rules : Rules) (fields : List (String × Field))
    (members : List (String × Value)) :
    checkKeys rules fields members = firstOf (Failure.ofKeys rules (.mk fields) members) := by
  unfold checkKeys Failure.ofKeys
  split
  · rw [← List.head?_filter]
    have hDeclares (key : String) :
        (!(Schema.mk fields).declares key) = (fields.lookup key).isNone := by
      simp [Schema.declares, Schema.get?, Schema.fields]
    simp only [hDeclares]
    cases members.filter fun (key, _) => (fields.lookup key).isNone <;> rfl
  · rfl

theorem checkShape_eq_firstOf_of {rules : Rules} {shape : Shape} {v : Value}
    (h : ∀ c, Classifies shape.kind v c → checkShape rules shape v =
      firstOf ((Limit.ofShape shape v).map (fun l => .here (.limit l)) ++ shape.inner rules v)) :
    checkShape rules shape v = firstOf (shape.violations rules v) := by
  cases hc : classify shape.kind v with
  | error why =>
    rw [checkShape_of_mismatch hc, Shape.violations_of_mismatch hc]
    rfl
  | ok c =>
    have hc := classify_eq_ok_iff.mp hc
    rw [h c hc, Shape.violations_of_classifies hc]

/-- The two kinds of numbers differ only in what they classify. -/
theorem checkShape_eq_firstOf_bounds {rules : Rules} {shape : Shape} {v : Value}
    (inner : shape.inner rules v = [])
    (hCheck : ∀ c, Classifies shape.kind v c →
      ∃ x, v.number? = some x ∧ checkShape rules shape v = ofLimit (shape.bounds.check x)) :
    checkShape rules shape v = firstOf (shape.violations rules v) := by
  apply checkShape_eq_firstOf_of
  intro c hc
  obtain ⟨x, hx, hCheck⟩ := hCheck c hc
  rw [hCheck, inner, List.append_nil, Limit.ofShape_number hx, Bounds.check_eq_firstOf,
    ofLimit_firstOf]

theorem checkShape_eq_firstOf_plain {rules : Rules} {shape : Shape} {v : Value}
    (text : shape.textLimits = {}) (bounds : shape.bounds = {})
    (hCheck : ∀ c, Classifies shape.kind v c →
      checkShape rules shape v = firstOf (shape.inner rules v)) :
    checkShape rules shape v = firstOf (shape.violations rules v) := by
  apply checkShape_eq_firstOf_of
  intro c hc
  rw [hCheck c hc, Limit.ofShape_plain text bounds]
  rfl

mutual

theorem checkFields_eq_firstOf (rules : Rules) (members : List (String × Value)) :
    (fields : List (String × Field)) →
      checkFields rules members fields = firstOf (Field.violations rules members fields)
  | [] => rfl
  | (name, .mk required shape) :: rest => by
    have ih := checkFields_eq_firstOf rules members rest
    rw [checkFields, Field.violations]
    cases members.lookup name with
    | none =>
      cases required with
      | true => rfl
      | false => exact ih
    | some v =>
      have hShape := checkShape_eq_firstOf rules shape v
      simp only [checkField, hShape, under_firstOf, ih]
      exact match_firstOf _ _

theorem checkSchema_eq_firstOf (rules : Rules) : (schema : Schema) →
    (members : List (String × Value)) →
      checkSchema rules schema members = firstOf (schema.violations rules members)
  | .mk fields, members => by
    rw [checkSchema, Schema.violations, checkFields_eq_firstOf rules members fields,
      checkKeys_eq_firstOf]
    exact match_firstOf _ _

theorem checkShape_eq_firstOf (rules : Rules) : (shape : Shape) → (v : Value) →
    checkShape rules shape v = firstOf (shape.violations rules v)
  | .text limits, v => checkShape_eq_firstOf_of fun c hc => by
    cases hc with
    | text s =>
      change ofLimit (limits.check s) = firstOf (_ ++ [])
      rw [List.append_nil, Limit.ofShape_text, ← ofLimit_firstOf, TextLimits.check_eq_firstOf]
      rfl
  | .number bounds, v => checkShape_eq_firstOf_bounds rfl fun c hc => by
    cases hc <;> exact ⟨_, rfl, rfl⟩
  | .double bounds, v => checkShape_eq_firstOf_bounds rfl fun c hc => by
    cases hc
    exact ⟨_, rfl, rfl⟩
  | .object (some schema), v => checkShape_eq_firstOf_plain rfl rfl fun c hc => by
    cases hc with
    | object members => exact checkSchema_eq_firstOf rules schema members
  | .array (some items), v => checkShape_eq_firstOf_plain rfl rfl fun c hc => by
    cases hc with
    | array vs => exact checkElements_eq_firstOf (checkItem_eq_firstOf rules items) 0 vs
  | .object none, v | .array none, v | .boolean, v | .null, v | .date, v | .timestamp, v =>
    checkShape_eq_firstOf_plain rfl rfl fun c hc => by
      rw [checkShape, classify_of_classifies hc]
      rfl

theorem checkItem_eq_firstOf (rules : Rules) : (items : Items) → (v : Value) →
    checkItem rules items v = firstOf (items.violations rules v)
  | .kind kind, v => by
    rw [checkItem, Items.violations]
    cases classify kind v <;> rfl
  | .field (.mk required shape), v => by
    rw [Items.violations, ← checkShape_eq_firstOf rules shape v]
    rfl
  | .schema schema, v => by
    cases v with
    | object members => exact checkSchema_eq_firstOf rules schema members
    | _ => rfl

end

end Validation

end Intake
