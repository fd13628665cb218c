import Intake.Proofs.DeclaredParts
import Intake.Proofs.Samples

/-! # Equal data under equal schemas

Equality leaves out the order of declarations and of keys, while validation goes by it. The order
may settle which failure comes first, but not whether there is one: what a schema and data hold
under one name is checked whatever stands before it. Where the fields are declared in the same order
and undeclared keys are let pass, the results are the same too.
-/

namespace Intake

/-- Broken limits are the same if the bounds are, as numbers. -/
def Limit.same : Limit → Limit → Bool
  | minimum x, minimum y => x.same y
  | maximum x, maximum y => x.same y
  | a, b => decide (a = b)

def Cause.same : Cause → Cause → Bool
  | limit a, limit b => a.same b
  | a, b => decide (a = b)

def Failure.same (f g : Failure) : Bool := decide (f.path = g.path) && f.cause.same g.cause

section Results

/-- Both results are successes, or both are failures and these are the same. -/
def Validation.sameResult : Except Failure Unit → Except Failure Unit → Bool
  | .ok _, .ok _ => true
  | .error f, .error g => f.same g
  | _, _ => false

open Validation

/-- Two results are successes together, and the same results if `exact` holds. -/
structure Corresponds (exact : Prop) (r r' : Except Failure Unit) : Prop where
  verdict : r = .ok () ↔ r' = .ok ()
  result : exact → sameResult r r' = true

variable {exact : Prop} {r r' s s' : Except Failure Unit}

theorem Corresponds.of_sameResult (h : sameResult r r' = true) : Corresponds exact r r' := by
  refine ⟨?_, fun _ => h⟩
  cases r with
  | ok =>
    cases r' with
    | ok => exact iff_of_true rfl rfl
    | error => cases h
  | error =>
    cases r' with
    | ok => cases h
    | error => simp

theorem sameResult_seq (first : sameResult r r' = true) (second : sameResult s s' = true) :
    sameResult (do r; s) (do r'; s') = true := by
  cases r <;> cases r' <;> first | exact first | exact second | cases first

theorem Corresponds.seq (first : Corresponds exact r r') (second : Corresponds exact s s') :
    Corresponds exact (do r; s) (do r'; s') := by
  refine ⟨?_, fun hExact => sameResult_seq (first.result hExact) (second.result hExact)⟩
  rw [seq_eq_ok_iff, seq_eq_ok_iff, first.verdict, second.verdict]

theorem Corresponds.under (h : Corresponds exact r r') (step : DataStep) :
    Corresponds exact (under step r) (under step r') := by
  refine ⟨?_, fun hExact => ?_⟩
  · rw [under_eq_ok_iff, under_eq_ok_iff, h.verdict]
  · have hResult := h.result hExact
    cases r <;> cases r' <;> first | cases hResult | skip
    · simpa [Validation.under, sameResult, Failure.same, Failure.within] using hResult
    · rfl

theorem ofLimit_seq (a b : Except Limit Unit) : ofLimit (do a; b) = (do ofLimit a; ofLimit b) := by
  cases a <;> rfl

theorem sameResult_mismatch (kind : Kind) (why : Mismatch) :
    sameResult (.error ⟨[], .mismatch kind why⟩) (.error ⟨[], .mismatch kind why⟩) = true := by
  simp [sameResult, Failure.same, Cause.same]

theorem checkElements_corresponds {check check' : Value → Except Failure Unit} {vs ws : List Value}
    (length : vs.length = ws.length)
    (each : ∀ (i : Nat) v w, vs[i]? = some v → ws[i]? = some w →
      Corresponds exact (check v) (check' w)) (i : Nat) :
    Corresponds exact (checkElements check i vs) (checkElements check' i ws) := by
  induction vs generalizing ws i with
  | nil =>
    obtain rfl := List.length_eq_zero_iff.mp length.symm
    exact .of_sameResult rfl
  | cons v rest ih =>
    cases ws with
    | nil => cases length
    | cons w rest' =>
      rw [checkElements_cons, checkElements_cons]
      exact ((each 0 v w rfl rfl).under (.index i)).seq
        (ih (Nat.succ.inj length) (fun k => each (k + 1)) (i + 1))

end Results

section Limits

open Validation

theorem sameResult_text (limits : TextLimits) (s : String) :
    sameResult (ofLimit (limits.check s)) (ofLimit (limits.check s)) = true := by
  have hPattern : sameResult (ofLimit (limits.checkPattern s)) (ofLimit (limits.checkPattern s)) =
      true := by
    unfold TextLimits.checkPattern
    split
    · split
      · rfl
      · simp [ofLimit, sameResult, Failure.same, Cause.same, Limit.same]
    · rfl
  have hMin : sameResult (ofLimit (limits.checkMin s)) (ofLimit (limits.checkMin s)) = true := by
    unfold TextLimits.checkMin
    split
    · split
      · simp [ofLimit, sameResult, Failure.same, Cause.same, Limit.same]
      · rfl
    · rfl
  have hMax : sameResult (ofLimit (limits.checkMax s)) (ofLimit (limits.checkMax s)) = true := by
    unfold TextLimits.checkMax
    split
    · split
      · simp [ofLimit, sameResult, Failure.same, Cause.same, Limit.same]
      · rfl
    · rfl
  rw [TextLimits.check, ofLimit_seq, ofLimit_seq]
  exact sameResult_seq hPattern (sameResult_seq hMin hMax)

theorem sameResult_bounds {bounds bounds' : Bounds} (h : bounds.same bounds' = true) (x : Double) :
    sameResult (ofLimit (bounds.check x)) (ofLimit (bounds'.check x)) = true := by
  obtain ⟨minimum, maximum⟩ := bounds
  obtain ⟨minimum', maximum'⟩ := bounds'
  rw [Bounds.same, Bool.and_eq_true] at h
  obtain ⟨hLeast, hMost⟩ := h
  rw [Bounds.check, Bounds.check, ofLimit_seq, ofLimit_seq]
  apply sameResult_seq
  · unfold Bounds.checkMin
    cases minimum <;> cases minimum' <;> first | rfl | cases hLeast | skip
    next a b =>
      have hSame : a.same b = true := hLeast
      simp only [Double.lt_of_same_right hSame x]
      split
      · simpa [ofLimit, sameResult, Failure.same, Cause.same, Limit.same] using hSame
      · rfl
  · unfold Bounds.checkMax
    cases maximum <;> cases maximum' <;> first | rfl | cases hMost | skip
    next a b =>
      have hSame : a.same b = true := hMost
      simp only [Double.lt_of_same_left hSame x]
      split
      · simpa [ofLimit, sameResult, Failure.same, Cause.same, Limit.same] using hSame
      · rfl

end Limits

section Classification

theorem Value.EqualMembers.refl (members : List (String × Value)) : EqualMembers members members :=
  ⟨fun _ => Iff.rfl, fun hv hw => .inl (Option.some.inj (hv.symm.trans hw))⟩

/-- Classified values that come of equal values. -/
inductive Classified.Equal : Classified → Classified → Prop where
  | null : Equal null null
  | text (s : String) : Equal (text s) (text s)
  | numbers {x y : Double} (h : x = y ∨ x.same y = true) : Equal (number x) (number y)
  | bool (b : Bool) : Equal (bool b) (bool b)
  | arrays {vs ws : List Value} (length : vs.length = ws.length)
      (each : ∀ (i : Nat) v w, vs[i]? = some v → ws[i]? = some w → v.Equal w) :
      Equal (array vs) (array ws)
  | objects {ms ms' : List (String × Value)} (h : Value.EqualMembers ms ms') :
      Equal (object ms) (object ms')
  | date (t : Instant) : Equal (date t) (date t)
  | timestamp (seconds : Int) : Equal (timestamp seconds) (timestamp seconds)

theorem Classified.Equal.refl (c : Classified) : c.Equal c := by
  cases c with
  | null => exact .null
  | text s => exact .text s
  | number x => exact .numbers (.inl rfl)
  | bool b => exact .bool b
  | array items =>
    exact .arrays rfl fun i v w hv hw => .inl (Option.some.inj (hv.symm.trans hw))
  | object members =>
    exact .objects (.refl members)
  | date t => exact .date t
  | timestamp seconds => exact .timestamp seconds

/-- Doubles that are equal as numbers are one and the same, or both are zero. -/
theorem Double.eq_or_zero_of_same {x y : Double} (h : x.same y = true) :
    x = y ∨ x.rank = 0 ∧ y.rank = 0 := by
  obtain ⟨negative, rank, hRank⟩ := x
  obtain ⟨negative', rank', hRank'⟩ := y
  simp only [same, Bool.and_eq_true, decide_eq_true_eq, order] at h
  cases negative <;> cases negative' <;>
    simp only [if_true, if_false, Bool.false_eq_true, mk.injEq, reduceCtorEq, false_and, true_and,
      false_or] at h ⊢ <;>
    omega

theorem Double.toInt64_of_same {x y : Double} (h : x.same y = true) : x.toInt64 = y.toInt64 := by
  have hZero {z : Double} (zero : z.rank = 0) : z.toInt64 = 0 := by
    have hSignificand : z.significand = 0 := by simp [significand, zero]
    have hTruncated : z.truncated = 0 := by
      unfold truncated
      rw [hSignificand]
      cases z.exponent <;> simp
    simp [toInt64, isNaN, isFinite, infinityRank, zero, hTruncated]
  rcases eq_or_zero_of_same h with rfl | ⟨hx, hy⟩
  · rfl
  · rw [hZero hx, hZero hy]

/-- Equal values are refused alike, or are taken for equal things. -/
theorem classify_of_equal {v w : Value} (h : v.Equal w) (kind : Kind) :
    (∃ why, classify kind v = .error why ∧ classify kind w = .error why) ∨
      ∃ c c', classify kind v = .ok c ∧ classify kind w = .ok c' ∧ c.Equal c' := by
  cases h.beside with
  | refl =>
    cases hClassified : classify kind v with
    | error why => exact .inl ⟨why, rfl, rfl⟩
    | ok c => exact .inr ⟨c, c, rfl, rfl, .refl c⟩
  | @floats x y hSame =>
    cases kind with
    | number | double => exact .inr ⟨_, _, rfl, rfl, .numbers (.inr hSame)⟩
    | timestamp =>
      refine .inr ⟨.timestamp x.toInt64, .timestamp y.toInt64, rfl, rfl, ?_⟩
      rw [Double.toInt64_of_same hSame]
      exact .timestamp _
    | _ => exact .inl ⟨_, rfl, rfl⟩
  | arrays length each =>
    cases kind with
    | array => exact .inr ⟨_, _, rfl, rfl, .arrays length each⟩
    | _ => exact .inl ⟨_, rfl, rfl⟩
  | objects hMembers =>
    cases kind with
    | object => exact .inr ⟨_, _, rfl, rfl, .objects hMembers⟩
    | _ => exact .inl ⟨_, rfl, rfl⟩

end Classification

section Schemas

open Demand (Throughout)

/-- No schema in what is asked declares a name twice. -/
def Demand.NamesDistinct (d : Demand) : Prop :=
  Throughout (fun e => ∀ s, e.schema? = some s → (s.fields.map Prod.fst).Nodup) d

/-- A nested schema asks for as much by itself. -/
theorem Demand.NamesDistinct.nested {s : Schema} (h : NamesDistinct (.shape (.object (some s)))) :
    NamesDistinct (.schema s) :=
  .of_parts (fun inner follows => h.here inner follows) (fun _ _ _ follows => h.field follows) nofun

/-- What goes into nothing declares nothing. -/
theorem Demand.namesDistinct_of_flat {shape : Shape} (nested : shape.nested? = none)
    (items : shape.items? = none) : NamesDistinct (.shape shape) := by
  refine .of_parts (fun s hs => ?_) (fun s name f hs => ?_) (fun inner hInner => ?_)
  · cases nested.symm.trans hs
  · cases nested.symm.trans hs
  · cases items.symm.trans hInner

mutual

/-- Two schemas declare the same names in the same order, at every level. -/
def Schema.SameOrder : Schema → Schema → Prop
  | .mk fields, .mk fields' => Schema.SameOrderFields fields fields'
termination_by structural s => s

def Schema.SameOrderFields : List (String × Field) → List (String × Field) → Prop
  | [], [] => True
  | (name, .mk _ shape) :: rest, (name', .mk _ shape') :: rest' =>
    name = name' ∧ Shape.SameOrder shape shape' ∧ Schema.SameOrderFields rest rest'
  | _, _ => False
termination_by structural fields => fields

def Shape.SameOrder : Shape → Shape → Prop
  | .object (some s), .object (some s') => Schema.SameOrder s s'
  | .array (some items), .array (some items') => Items.SameOrder items items'
  | _, _ => True
termination_by structural shape => shape

def Items.SameOrder : Items → Items → Prop
  | .field (.mk _ shape), .field (.mk _ shape') => Shape.SameOrder shape shape'
  | .schema s, .schema s' => Schema.SameOrder s s'
  | _, _ => True
termination_by structural items => items

end

theorem Field.same_iff {f f' : Field} :
    f.same f' = true ↔ f.required = f'.required ∧ f.shape.same f'.shape = true := by
  obtain ⟨required, shape⟩ := f
  obtain ⟨required', shape'⟩ := f'
  rw [Field.same, Bool.and_eq_true, beq_iff_eq]
  rfl

theorem Schema.sameFields_iff {fields fields' : List (String × Field)} :
    sameFields fields fields' = true ↔
      ∀ m ∈ fields, ∃ f', fields'.lookup m.1 = some f' ∧ m.2.same f' = true := by
  induction fields with
  | nil => simp [sameFields]
  | cons m rest ih =>
    obtain ⟨name, f⟩ := m
    rw [sameFields, Bool.and_eq_true, ih, List.forall_mem_cons]
    cases fields'.lookup name <;> simp

/-- Two lists of fields declare the same under the same names. -/
structure SameFields (fields fields' : List (String × Field)) : Prop where
  names (name : String) : fields.lookup name = none ↔ fields'.lookup name = none
  values {name : String} {f f' : Field} (found : fields.lookup name = some f)
    (found' : fields'.lookup name = some f') : f.same f' = true

section Declared

variable {fields fields' : List (String × Field)} (distinct : (fields.map Prod.fst).Nodup)
  (h : (Schema.mk fields).same (.mk fields') = true)

include h

theorem Schema.found_of_same {name : String} {f : Field} (found : fields.lookup name = some f) :
    ∃ f', fields'.lookup name = some f' ∧ f.same f' = true := by
  rw [Schema.same, Bool.and_eq_true, sameFields_iff] at h
  exact h.2 (name, f) (mem_of_lookup_eq_some found)

include distinct

theorem Schema.names_perm_of_same : (fields.map Prod.fst).Perm (fields'.map Prod.fst) := by
  have hFound (name : String) (f : Field) (hf : fields.lookup name = some f) :
      ∃ f', fields'.lookup name = some f' :=
    (found_of_same h hf).imp fun _ => And.left
  rw [Schema.same, Bool.and_eq_true, beq_iff_eq] at h
  exact keys_perm_of_found hFound h.1 distinct

theorem Schema.sameFields_of_same : SameFields fields fields' := by
  have hPerm := names_perm_of_same distinct h
  refine ⟨lookup_eq_none_iff_of_keys_perm hPerm, fun {name f f'} hf hf' => ?_⟩
  obtain ⟨other, hOther, hSame⟩ := found_of_same h hf
  exact Option.some.inj (hOther.symm.trans hf') ▸ hSame

end Declared

theorem rel_of_parts {α β : Type} {r : α → β → Prop} {o : Option α} {o' : Option β}
    (absent : o = none ↔ o' = none) (each : ∀ a b, o = some a → o' = some b → r a b) :
    Option.Rel r o o' := by
  cases o with
  | none =>
    rw [absent.mp rfl]
    exact .none
  | some a =>
    cases o' with
    | none => cases absent.mpr rfl
    | some b => exact .some (each a b rfl rfl)

theorem SameFields.at {fields fields' : List (String × Field)} (h : SameFields fields fields')
    (name : String) :
    Option.Rel (fun f f' => f.same f' = true) (fields.lookup name) (fields'.lookup name) :=
  rel_of_parts (h.names name) fun _ _ => h.values

theorem Value.EqualMembers.at {ms ms' : List (String × Value)} (h : EqualMembers ms ms')
    (key : String) : Option.Rel Value.Equal (ms.lookup key) (ms'.lookup key) :=
  rel_of_parts (h.keys key) fun _ _ => h.values

end Schemas

section Places

open Validation

variable {rules : Rules}

/-- What is asked where a schema declares a field under a name or none, and data holds a value under
it or none. -/
def PassesAt (rules : Rules) : Option Field → Option Value → Prop
  | none, none => True
  | none, some _ => rules.rejectUnknown = false
  | some f, none => f.required = false
  | some f, some v => checkField rules f v = .ok ()

theorem checkFields_eq_ok_iff_declared {members : List (String × Value)}
    {fields : List (String × Field)} : checkFields rules members fields = .ok () ↔
      ∀ m ∈ fields, checkDeclared rules members m.1 m.2 = .ok () := by
  induction fields with
  | nil => simp [checkFields]
  | cons m rest ih => rw [checkFields_cons, seq_eq_ok_iff, ih, List.forall_mem_cons]

theorem checkDeclared_eq_ok_iff {members : List (String × Value)} {name : String} {f : Field} :
    checkDeclared rules members name f = .ok () ↔
      PassesAt rules (some f) (members.lookup name) := by
  unfold checkDeclared
  cases members.lookup name with
  | none => cases hRequired : f.required <;> simp [PassesAt, hRequired]
  | some v => exact under_eq_ok_iff

/-- Whether members pass a schema is settled name by name. -/
theorem checkSchema_eq_ok_iff_places {fields : List (String × Field)}
    {members : List (String × Value)} (distinct : (fields.map Prod.fst).Nodup) :
    checkSchema rules (.mk fields) members = .ok () ↔
      ∀ name, PassesAt rules (fields.lookup name) (members.lookup name) := by
  rw [checkSchema_mk, seq_eq_ok_iff, checkFields_eq_ok_iff_declared, checkKeys_eq_ok_iff]
  constructor
  · rintro ⟨hFields, hKeys⟩ name
    cases hField : fields.lookup name with
    | some f => exact checkDeclared_eq_ok_iff.mp (hFields _ (mem_of_lookup_eq_some hField))
    | none =>
      cases hValue : members.lookup name with
      | none => trivial
      | some v =>
        refine Bool.eq_false_iff.mpr fun hReject => ?_
        obtain ⟨f, hMem⟩ := hKeys hReject name v (mem_of_lookup_eq_some hValue)
        exact lookup_eq_none_iff_forall.mp hField f hMem
  · intro h
    constructor
    · intro m hMem
      have hPlace := h m.1
      rw [lookup_eq_some_of_mem distinct hMem] at hPlace
      exact checkDeclared_eq_ok_iff.mpr hPlace
    · intro hReject key v hMem
      have hPlace := h key
      cases hField : fields.lookup key with
      | some f => exact ⟨f, mem_of_lookup_eq_some hField⟩
      | none =>
        rw [hField] at hPlace
        cases hValue : members.lookup key with
        | none => exact absurd hMem (lookup_eq_none_iff_forall.mp hValue v)
        | some w =>
          rw [hValue] at hPlace
          exact absurd hReject (Bool.eq_false_iff.mp hPlace)

/-- At equal places data passes or not alike, if equal values do. -/
theorem passesAt_iff {f? f'? : Option Field} {v? w? : Option Value}
    (declared : Option.Rel (fun f f' => f.same f' = true) f? f'?)
    (held : Option.Rel Value.Equal v? w?)
    (each : ∀ f f' v w, f? = some f → f.same f' = true → v.Equal w →
      (checkField rules f v = .ok () ↔ checkField rules f' w = .ok ())) :
    PassesAt rules f? v? ↔ PassesAt rules f'? w? := by
  cases declared with
  | none => cases held <;> rfl
  | some hField =>
    cases held with
    | none => rw [PassesAt, PassesAt, (Field.same_iff.mp hField).1]
    | some hValue => exact each _ _ _ _ rfl hField hValue

/-- Fields in the same order are checked with the same result, if each of them is. -/
theorem sameResult_checkFields {ms ms' : List (String × Value)} (held : Value.EqualMembers ms ms')
    {fields fields' : List (String × Field)} (distinct : (fields.map Prod.fst).Nodup)
    (order : Schema.SameOrderFields fields fields')
    (each : ∀ name f f', (name, f) ∈ fields → fields'.lookup name = some f' →
      f.shape.SameOrder f'.shape → f.required = f'.required ∧
        ∀ v w, v.Equal w → sameResult (checkField rules f v) (checkField rules f' w) = true) :
    sameResult (checkFields rules ms fields) (checkFields rules ms' fields') = true := by
  induction fields generalizing fields' with
  | nil =>
    cases fields' with
    | nil => rw [checkFields, checkFields]; rfl
    | cons => cases order
  | cons m rest ih =>
    obtain ⟨name, f⟩ := m
    cases fields' with
    | nil =>
      obtain ⟨required, shape⟩ := f
      cases order
    | cons m' rest' =>
      obtain ⟨name', f'⟩ := m'
      have hOrder : name = name' ∧ f.shape.SameOrder f'.shape ∧
          Schema.SameOrderFields rest rest' := by
        obtain ⟨required, shape⟩ := f
        obtain ⟨required', shape'⟩ := f'
        exact order
      obtain ⟨rfl, hShape, hRest⟩ := hOrder
      obtain ⟨hFresh, hDistinct⟩ := List.nodup_cons.mp distinct
      obtain ⟨hRequired, hField⟩ := each name f f' List.mem_cons_self List.lookup_cons_self hShape
      rw [checkFields_cons, checkFields_cons]
      apply sameResult_seq
      · have hHeld := held.at name
        unfold checkDeclared
        generalize ms.lookup name = v?, ms'.lookup name = w? at hHeld ⊢
        cases hHeld with
        | none =>
          dsimp only
          rw [hRequired]
          cases f'.required with
          | false => rfl
          | true => simp [sameResult, Failure.same, Cause.same]
        | some hValue =>
          have hHead : Corresponds True _ _ := .of_sameResult (hField _ _ hValue)
          exact (hHead.under (.field name)).result trivial
      · refine ih hDistinct hRest fun other g g' hMem hFound => ?_
        have hOther : other ≠ name := by
          rintro rfl
          exact hFresh (List.mem_map.mpr ⟨_, hMem, rfl⟩)
        exact each other g g' (List.mem_cons_of_mem _ hMem)
          ((lookup_cons_of_ne hOther).trans hFound)

end Places

section Whole

open Validation

/-- What makes results the same and not only successes together. -/
def Exactly (rules : Rules) (ordered : Prop) : Prop := rules.rejectUnknown = false ∧ ordered

variable {rules : Rules}

/-- What is not of the kind is refused alike, so only what is of the kind has to be followed. -/
theorem corresponds_of_classified {exact : Prop} {shape shape' : Shape} {v w : Value}
    (kind : shape.kind = shape'.kind) (equal : v.Equal w)
    (each : ∀ c c', classify shape.kind v = .ok c → classify shape'.kind w = .ok c' → c.Equal c' →
      Corresponds exact (checkShape rules shape v) (checkShape rules shape' w)) :
    Corresponds exact (checkShape rules shape v) (checkShape rules shape' w) := by
  rcases classify_of_equal equal shape.kind with ⟨why, hv, hw⟩ | ⟨c, c', hv, hw, hEqual⟩
  · rw [checkShape_of_mismatch hv, checkShape_of_mismatch (kind ▸ hw), kind]
    exact .of_sameResult (sameResult_mismatch _ why)
  · exact each c c' hv (kind ▸ hw) hEqual

theorem corresponds_bounds {exact : Prop} {bounds bounds' : Bounds} {x y : Double}
    (h : bounds.same bounds' = true) (equal : x = y ∨ x.same y = true) :
    Corresponds exact (ofLimit (bounds.check x)) (ofLimit (bounds'.check y)) := by
  have hCheck : bounds'.check x = bounds'.check y := by
    rcases equal with rfl | hSame
    · rfl
    · exact Bounds.check_of_same hSame bounds'
  rw [← hCheck]
  exact .of_sameResult (sameResult_bounds h x)

mutual

theorem fields_correspond : (fields : List (String × Field)) →
    (∀ m ∈ fields, Demand.NamesDistinct (.shape m.2.shape)) →
    ∀ {name : String} {f f' : Field} {v w : Value}, (name, f) ∈ fields → f.same f' = true →
      v.Equal w → Corresponds (Exactly rules (f.shape.SameOrder f'.shape)) (checkField rules f v)
        (checkField rules f' w)
  | [], _, _, _, _, _, _, hMem, _, _ => nomatch hMem
  | (_, .mk required shape) :: rest, hDistinct, _, f, .mk required' shape', _, _, hMem, hSame,
      hEqual => by
    obtain ⟨hHead, hRest⟩ := List.forall_mem_cons.mp hDistinct
    rcases List.mem_cons.mp hMem with hHere | hMem
    · cases hHere
      exact shape_corresponds shape hHead (Field.same_iff.mp hSame).2 hEqual
    · exact fields_correspond rest hRest hMem hSame hEqual

theorem schema_corresponds : (s : Schema) → Demand.NamesDistinct (.schema s) →
    ∀ {s' : Schema} {ms ms' : List (String × Value)}, s.same s' = true →
      Value.EqualMembers ms ms' → Corresponds (Exactly rules (s.SameOrder s'))
        (checkSchema rules s ms) (checkSchema rules s' ms')
  | .mk fields, hDistinct, .mk fields', ms, ms', hSame, hHeld => by
    have hNames : (fields.map Prod.fst).Nodup := hDistinct.here _ rfl
    have hNames' : (fields'.map Prod.fst).Nodup :=
      (Schema.names_perm_of_same hNames hSame).nodup_iff.mp hNames
    have hDeclared : SameFields fields fields' := Schema.sameFields_of_same hNames hSame
    have hEach {name : String} {f f' : Field} {v w : Value} (hMem : (name, f) ∈ fields)
        (hField : f.same f' = true) (hValue : v.Equal w) :
        Corresponds (Exactly rules (f.shape.SameOrder f'.shape)) (checkField rules f v)
          (checkField rules f' w) :=
      fields_correspond fields (fun m hm => hDistinct.field rfl hm) hMem hField hValue
    constructor
    · rw [checkSchema_eq_ok_iff_places hNames, checkSchema_eq_ok_iff_places hNames']
      refine forall_congr' fun name => passesAt_iff (hDeclared.at name) (hHeld.at name) ?_
      intro f f' v w hf hField hValue
      exact (hEach (mem_of_lookup_eq_some hf) hField hValue).verdict
    · rintro ⟨hRules, hOrder⟩
      have hKeys (fs : List (String × Field)) (members : List (String × Value)) :
          checkKeys rules fs members = .ok () := by
        rw [checkKeys, hRules]
        rfl
      rw [checkSchema_mk, checkSchema_mk, hKeys, hKeys]
      refine sameResult_seq (sameResult_checkFields hHeld hNames hOrder ?_) rfl
      intro name f f' hMem hFound hShapes
      have hField : f.same f' = true :=
        hDeclared.values (lookup_eq_some_of_mem hNames hMem) hFound
      exact ⟨(Field.same_iff.mp hField).1,
        fun v w hValue => (hEach hMem hField hValue).result ⟨hRules, hShapes⟩⟩

theorem shape_corresponds : (shape : Shape) → Demand.NamesDistinct (.shape shape) →
    ∀ {shape' : Shape} {v w : Value}, shape.same shape' = true → v.Equal w →
      Corresponds (Exactly rules (shape.SameOrder shape')) (checkShape rules shape v)
        (checkShape rules shape' w)
  | .text limits, _, .text limits', v, w, hSame, hEqual => by
    obtain rfl : limits = limits' := eq_of_beq hSame
    refine corresponds_of_classified rfl hEqual fun c c' hv hw hClassified => ?_
    rw [checkShape, checkShape, hv, hw]
    cases hClassified with
    | text s => exact .of_sameResult (sameResult_text limits s)
    | _ => exact .of_sameResult rfl
  | .number bounds, _, .number bounds', v, w, hSame, hEqual
  | .double bounds, _, .double bounds', v, w, hSame, hEqual => by
    refine corresponds_of_classified rfl hEqual fun c c' hv hw hClassified => ?_
    rw [checkShape, checkShape, hv, hw]
    cases hClassified with
    | numbers hNumbers => exact corresponds_bounds hSame hNumbers
    | _ => exact .of_sameResult rfl
  | .object (some s), hDistinct, .object (some s'), v, w, hSame, hEqual => by
    refine corresponds_of_classified rfl hEqual fun c c' hv hw hClassified => ?_
    rw [checkShape, checkShape, hv, hw]
    cases hClassified with
    | objects hMembers => exact schema_corresponds s hDistinct.nested hSame hMembers
    | _ => exact .of_sameResult rfl
  | .array (some items), hDistinct, .array (some items'), v, w, hSame, hEqual => by
    refine corresponds_of_classified rfl hEqual fun c c' hv hw hClassified => ?_
    rw [checkShape, checkShape, hv, hw]
    cases hClassified with
    | arrays length each =>
      exact checkElements_corresponds length (fun i a b ha hb =>
        items_correspond items (hDistinct.items rfl) hSame (each i a b ha hb)) 0
    | _ => exact .of_sameResult rfl
  | .boolean, _, .boolean, v, w, _, hEqual | .null, _, .null, v, w, _, hEqual
  | .date, _, .date, v, w, _, hEqual | .timestamp, _, .timestamp, v, w, _, hEqual
  | .object none, _, .object none, v, w, _, hEqual
  | .array none, _, .array none, v, w, _, hEqual => by
    refine corresponds_of_classified rfl hEqual fun c c' hv hw hClassified => ?_
    rw [checkShape, checkShape, hv, hw]
    cases hClassified <;> exact .of_sameResult rfl

theorem items_correspond : (items : Items) → Demand.NamesDistinct (.ofItems items) →
    ∀ {items' : Items} {v w : Value}, items.same items' = true → v.Equal w →
      Corresponds (Exactly rules (items.SameOrder items')) (checkItem rules items v)
        (checkItem rules items' w)
  | .kind kind, _, .kind kind', v, w, hSame, hEqual => by
    obtain rfl : kind = kind' := eq_of_beq hSame
    rw [checkItem, checkItem]
    rcases classify_of_equal hEqual kind with ⟨why, hv, hw⟩ | ⟨c, c', hv, hw, -⟩
    · rw [hv, hw]
      exact .of_sameResult (sameResult_mismatch kind why)
    · rw [hv, hw]
      exact .of_sameResult rfl
  | .field (.mk _ shape), hDistinct, .field (.mk _ shape'), v, w, hSame, hEqual =>
    shape_corresponds shape hDistinct (Field.same_iff.mp hSame).2 hEqual
  | .schema s, hDistinct, .schema s', v, w, hSame, hEqual => by
    rw [checkItem, checkItem]
    rcases classify_of_equal hEqual .object with ⟨why, hv, hw⟩ | ⟨c, c', hv, hw, hClassified⟩
    · rw [hv, hw]
      exact .of_sameResult (sameResult_mismatch .object why)
    · rw [hv, hw]
      cases hClassified with
      | objects hMembers => exact schema_corresponds s hDistinct hSame hMembers
      | _ => exact .of_sameResult rfl

end

end Whole

/-- Equal data is accepted or not alike by equal schemas, whatever the order of declarations and of
keys, as long as names and keys are those of a map: none comes twice. Where the schemas declare
their fields in the same order and undeclared keys are let pass, a failure is the same as well. -/
theorem Schema.validate_of_same {s s' : Schema} {d d' : Value}
    (names : Demand.NamesDistinct (.schema s)) (keys : d.KeysDistinct)
    (schemas : s.same s' = true) (data : d.same d' = true) :
    (∀ rules, s.validate rules d = .ok () ↔ s'.validate rules d' = .ok ()) ∧
      (s.SameOrder s' → Validation.sameResult (s.validate { rejectUnknown := false } d)
        (s'.validate { rejectUnknown := false } d') = true) := by
  have hEqual : d.Equal d' := .inr ⟨keys, data⟩
  have hWhole (rules : Rules) : Corresponds (Exactly rules (s.SameOrder s')) (s.validate rules d)
      (s'.validate rules d') := by
    cases hEqual.beside with
    | objects hMembers => exact schema_corresponds s names schemas hMembers
    | refl =>
      cases d with
      | object members => exact schema_corresponds s names schemas (.refl members)
      | _ => exact .of_sameResult rfl
    | _ => exact .of_sameResult rfl
  exact ⟨fun rules => (hWhole rules).verdict, fun hOrder => (hWhole _).result ⟨rfl, hOrder⟩⟩

/-- In the first data two members are at fault, and the order of the declarations settles which one
is blamed. In the second data a number is below a bound of zero, which has a sign in one schema. -/
theorem Schema.validate_of_same_signed_zero :
    let name : Field := .mk true (.text {})
    let amount : Field := .mk true (.number { minimum := some Double.zero })
    let amount' : Field := .mk true (.number { minimum := some ⟨true, 0, by decide⟩ })
    let s : Schema := .mk [("name", name), ("amount", amount)]
    let ordered : Schema := .mk [("name", name), ("amount", amount')]
    let swapped : Schema := .mk [("amount", amount'), ("name", name)]
    let d : Value := .object [("amount", .int (-1)), ("name", .bool true)]
    let d' : Value := .object [("name", .bool true), ("amount", .int (-1))]
    let e : Value := .object [("amount", .int (-1)), ("name", .text "Jane")]
    let e' : Value := .object [("name", .text "Jane"), ("amount", .int (-1))]
    Demand.NamesDistinct (.schema s) ∧ d.KeysDistinct ∧ e.KeysDistinct ∧
      s.same ordered = true ∧ s.same swapped = true ∧ d.same d' = true ∧ e.same e' = true ∧
      s.SameOrder ordered ∧
      (s.validate {} d = .ok () ↔ swapped.validate {} d' = .ok ()) ∧
      s.validate {} d = .error ⟨[.field "name"], .mismatch .string (.wrongKind .string)⟩ ∧
      swapped.validate {} d' =
        .error ⟨[.field "amount"], .limit (.minimum ⟨true, 0, by decide⟩)⟩ ∧
      s.validate {} e = .error ⟨[.field "amount"], .limit (.minimum Double.zero)⟩ ∧
      Validation.sameResult (s.validate {} e) (ordered.validate {} e') = true := by
  intro name amount amount' s ordered swapped d d' e e'
  have hNames : Demand.NamesDistinct (.schema s) := by
    refine .of_parts ?_ ?_ (by rintro _ ⟨⟩)
    · rintro _ ⟨⟩
      decide
    · rintro _ field f ⟨⟩ hMem
      simp only [fields, s, List.mem_cons, Prod.mk.injEq, List.not_mem_nil, or_false] at hMem
      rcases hMem with ⟨rfl, rfl⟩ | ⟨rfl, rfl⟩ <;> exact Demand.namesDistinct_of_flat rfl rfl
  have hInt (n : Int64) : (Value.int n).KeysDistinct := by rintro _ ⟨⟩
  have hBool (b : Bool) : (Value.bool b).KeysDistinct := by rintro _ ⟨⟩
  have hText (t : String) : (Value.text t).KeysDistinct := by rintro _ ⟨⟩
  have hKeys : d.KeysDistinct := by simp [d, Value.keysDistinct_object_iff, hInt, hBool]
  have hKeys' : e.KeysDistinct := by simp [e, Value.keysDistinct_object_iff, hInt, hText]
  have hOrdered : s.same ordered = true := rfl
  have hSwapped : s.same swapped = true := rfl
  have hData : d.same d' = true := rfl
  have hData' : e.same e' = true := rfl
  have hOrder : s.SameOrder ordered := ⟨rfl, trivial, rfl, trivial, trivial⟩
  exact ⟨hNames, hKeys, hKeys', hOrdered, hSwapped, hData, hData', hOrder,
    (validate_of_same hNames hKeys hSwapped hData).1 {}, rfl, rfl, rfl,
    (validate_of_same hNames hKeys' hOrdered hData').2 hOrder⟩

end Intake
