import Intake.Proofs.Cleaning
import Intake.Proofs.Conformance

/-! # Fields of entries that are left out

A lenient reading leaves faulty entries out of a schema. What data holds under such an entry is not
looked at when the data is checked, at whatever place it stands. Where undeclared keys are refused,
though, the entry no longer declares its key, and data that holds it is refused for that.
-/

namespace Intake

namespace Value

/-- One value is found in another, at any depth. -/
inductive Inside (w : Value) : Value → Prop where
  | here : Inside w w
  | item {items : List Value} {v : Value} (present : v ∈ items) (h : Inside w v) :
    Inside w (.array items)
  | member {members : List (String × Value)} {m : String × Value} (present : m ∈ members)
    (h : Inside w m.2) : Inside w (.object members)

/-- No object in a value has a key twice. -/
def KeysDistinct (v : Value) : Prop :=
  ∀ members, Inside (.object members) v → (members.map Prod.fst).Nodup

/-- Two values differ in one object at a place, whose members have changed in some way. -/
inductive Differ (change : List (String × Value) → List (String × Value) → Prop) :
    List DataStep → Value → Value → Prop where
  | here {members members' : List (String × Value)} (h : change members members') :
    Differ change [] (.object members) (.object members')
  | field {name : String} {place : List DataStep} {front back : List (String × Value)}
    {v v' : Value} (h : Differ change place v v') :
    Differ change (.field name :: place) (.object (front ++ (name, v) :: back))
      (.object (front ++ (name, v') :: back))
  | index {place : List DataStep} {front back : List Value} {v v' : Value}
    (h : Differ change place v v') :
    Differ change (.index front.length :: place) (.array (front ++ v :: back))
      (.array (front ++ v' :: back))

/-- What a value holds at a place. -/
def at? : List DataStep → Value → Option Value
  | [], v => some v
  | .field name :: place, .object members => (members.lookup name).bind (at? place)
  | .index i :: place, .array items => items[i]?.bind (at? place)
  | _, _ => none

theorem object_of_at? {place : List DataStep} {name : String} {v w : Value}
    (h : v.at? (place ++ [.field name]) = some w) (field : ∀ i rest, place ≠ .index i :: rest) :
    ∃ members, v = .object members := by
  cases v with
  | object members => exact ⟨members, rfl⟩
  | _ =>
    all_goals
      cases place with
      | nil => cases h
      | cons step rest =>
        cases step with
        | field => cases h
        | index i => exact absurd rfl (field i rest)

/-- A key is there or not, with any value. -/
def AlikeBut (name : String) (members members' : List (String × Value)) : Prop :=
  (members.filter fun m => m.1 ≠ name) = members'.filter fun m => m.1 ≠ name

/-- A key is there with one value or another. -/
def Revalued (name : String) (members members' : List (String × Value)) : Prop :=
  ∃ front back v v', members = front ++ (name, v) :: back ∧
    members' = front ++ (name, v') :: back

theorem keysDistinct_object_iff {members : List (String × Value)} :
    (object members).KeysDistinct ↔
      (members.map Prod.fst).Nodup ∧ ∀ m ∈ members, m.2.KeysDistinct := by
  constructor
  · intro h
    exact ⟨h _ .here, fun m present inner hInside => h inner (.member present hInside)⟩
  · rintro ⟨hHere, hEach⟩ inner hInside
    cases hInside with
    | here => exact hHere
    | member present hInside => exact hEach _ present inner hInside

theorem KeysDistinct.member {members : List (String × Value)} (h : (object members).KeysDistinct)
    {m : String × Value} (present : m ∈ members) : m.2.KeysDistinct :=
  (keysDistinct_object_iff.mp h).2 m present

theorem KeysDistinct.tail {m : String × Value} {rest : List (String × Value)}
    (h : (object (m :: rest)).KeysDistinct) : (object rest).KeysDistinct := by
  obtain ⟨hKeys, hEach⟩ := keysDistinct_object_iff.mp h
  exact keysDistinct_object_iff.mpr
    ⟨(List.nodup_cons.mp hKeys).2, (List.forall_mem_cons.mp hEach).2⟩

theorem KeysDistinct.lookup {members : List (String × Value)} (h : (object members).KeysDistinct)
    {key : String} {v : Value} (found : members.lookup key = some v) : v.KeysDistinct := by
  obtain ⟨front, back, rfl, -⟩ := List.lookup_eq_some_iff.mp found
  exact h.member (m := (key, v)) (by simp)

theorem KeysDistinct.nested {entries : List (String × Value)} (h : (object entries).KeysDistinct)
    {key : String} {v : Value} (held : Definition.nestedEntry? entries = some (key, v)) :
    v.KeysDistinct := by
  cases Definition.nestedEntry?_eq_some_iff.mp held with
  | properties found => exact h.lookup found
  | schema _ found => exact h.lookup found

theorem lookup_filter_of_ne {members : List (String × Value)} {name key : String}
    (h : key ≠ name) : (members.filter fun m => m.1 ≠ name).lookup key = members.lookup key := by
  induction members with
  | nil => rfl
  | cons m rest ih =>
    obtain ⟨k, v⟩ := m
    by_cases hKey : key = k
    · subst hKey
      rw [List.filter_cons_of_pos (by simpa using h), List.lookup_cons_self, List.lookup_cons_self]
    · rw [lookup_cons_of_ne hKey, ← ih]
      by_cases hName : k = name
      · rw [List.filter_cons_of_neg (by simpa using hName)]
      · rw [List.filter_cons_of_pos (by simpa using hName), lookup_cons_of_ne hKey]

theorem find?_filter_of_ne {members : List (String × Value)} {name : String}
    {p : String × Value → Bool} (h : ∀ v, members.find? p ≠ some (name, v)) :
    (members.filter fun m => m.1 ≠ name).find? p = members.find? p := by
  induction members with
  | nil => rfl
  | cons m rest ih =>
    obtain ⟨k, v⟩ := m
    cases hFound : p (k, v) with
    | true =>
      have hName : k ≠ name := by
        rintro rfl
        exact h v (List.find?_cons_of_pos hFound)
      rw [List.filter_cons_of_pos (by simpa using hName), List.find?_cons_of_pos hFound,
        List.find?_cons_of_pos hFound]
    | false =>
      have hSkip {rest : List (String × Value)} : ((k, v) :: rest).find? p = rest.find? p :=
        List.find?_cons_of_neg (by simp [hFound])
      rw [hSkip] at h ⊢
      rw [← ih h, List.filter_cons]
      split
      · exact hSkip
      · rfl

theorem AlikeBut.lookup {name key : String} {members members' : List (String × Value)}
    (h : AlikeBut name members members') (other : key ≠ name) :
    members.lookup key = members'.lookup key := by
  rw [← lookup_filter_of_ne other, h, lookup_filter_of_ne other]

theorem Revalued.alikeBut {name : String} {members members' : List (String × Value)}
    (h : Revalued name members members') : AlikeBut name members members' := by
  obtain ⟨front, back, v, v', rfl, rfl⟩ := h
  simp [AlikeBut]

theorem Revalued.keys {name : String} {members members' : List (String × Value)}
    (h : Revalued name members members') : members.map Prod.fst = members'.map Prod.fst := by
  obtain ⟨front, back, v, v', rfl, rfl⟩ := h
  simp

end Value

/-- The step into a definition that goes with a step into data. -/
def DataStep.declared : DataStep → DefinitionStep
  | field name => .field name
  | index _ => .items

/-- Two checks come to the same, or come apart in that one of them ends with a failure. -/
def Agree (apart : Prop) (f : Failure) (r r' : Except Failure Unit) : Prop :=
  r = r' ∨ apart ∧ (r = .error f ∨ r' = .error f)

namespace Agree

variable {apart : Prop} {f : Failure} {r r' s s' : Except Failure Unit}

theorem under (h : Agree apart f r r') (step : DataStep) :
    Agree apart (f.within step) (Validation.under step r) (Validation.under step r') := by
  rcases h with rfl | ⟨hApart, rfl | rfl⟩
  · exact .inl rfl
  · exact .inr ⟨hApart, .inl rfl⟩
  · exact .inr ⟨hApart, .inr rfl⟩

theorem seq (first : Agree apart f r r') (second : Agree apart f s s') :
    Agree apart f (do r; s) (do r'; s') := by
  rcases first with rfl | ⟨hApart, rfl | rfl⟩
  · cases r with
    | error e => exact .inl rfl
    | ok => exact second
  · exact .inr ⟨hApart, .inl rfl⟩
  · exact .inr ⟨hApart, .inr rfl⟩

end Agree

namespace Validation

variable {rules : Rules} {members members' : List (String × Value)} {apart : Prop} {f : Failure}

/-- The check of one declared field. -/
def checkDeclared (rules : Rules) (members : List (String × Value)) (name : String)
    (field : Field) : Except Failure Unit :=
  match members.lookup name with
  | none => if field.required then .error ⟨[], .missing name⟩ else .ok ()
  | some v => under (.field name) (checkField rules field v)

theorem checkFields_cons (name : String) (field : Field) (rest : List (String × Field)) :
    checkFields rules members ((name, field) :: rest) = (do
      checkDeclared rules members name field
      checkFields rules members rest) := by
  rw [checkFields, checkDeclared]
  cases members.lookup name with
  | none => cases field.required <;> rfl
  | some v =>
    dsimp only
    cases under (.field name) (checkField rules field v) <;> rfl

theorem checkSchema_mk (fields : List (String × Field)) :
    checkSchema rules (.mk fields) members = (do
      checkFields rules members fields
      checkKeys rules fields members) := by
  rw [checkSchema]
  cases checkFields rules members fields <;> rfl

theorem checkElements_cons (check : Value → Except Failure Unit) (i : Nat) (v : Value)
    (rest : List Value) :
    checkElements check i (v :: rest) = (do
      under (.index i) (check v)
      checkElements check (i + 1) rest) := by
  rw [checkElements]
  cases under (.index i) (check v) <;> rfl

theorem agree_checkFields {fields : List (String × Field)}
    (each : ∀ m ∈ fields, Agree apart f (checkDeclared rules members m.1 m.2)
      (checkDeclared rules members' m.1 m.2)) :
    Agree apart f (checkFields rules members fields) (checkFields rules members' fields) := by
  induction fields with
  | nil => exact .inl rfl
  | cons m rest ih =>
    obtain ⟨hHead, hRest⟩ := List.forall_mem_cons.mp each
    rw [checkFields_cons, checkFields_cons]
    exact hHead.seq (ih hRest)

theorem checkDeclared_congr {name : String} (h : members.lookup name = members'.lookup name)
    (field : Field) :
    checkDeclared rules members name field = checkDeclared rules members' name field := by
  rw [checkDeclared, checkDeclared, h]

theorem agree_checkDeclared {name : String} {field : Field} {v v' : Value}
    (h : Agree apart f (checkField rules field v) (checkField rules field v'))
    (front back : List (String × Value)) :
    Agree apart (f.within (.field name))
      (checkDeclared rules (front ++ (name, v) :: back) name field)
      (checkDeclared rules (front ++ (name, v') :: back) name field) := by
  rw [checkDeclared, checkDeclared, List.lookup_append, List.lookup_append,
    List.lookup_cons_self, List.lookup_cons_self]
  cases front.lookup name with
  | none => exact h.under (.field name)
  | some w => exact .inl rfl

theorem agree_checkElements {check : Value → Except Failure Unit} {v v' : Value}
    (h : Agree apart f (check v) (check v')) (front back : List Value) (i : Nat) :
    Agree apart (f.within (.index (i + front.length))) (checkElements check i (front ++ v :: back))
      (checkElements check i (front ++ v' :: back)) := by
  induction front generalizing i with
  | nil =>
    rw [List.nil_append, List.nil_append, checkElements_cons, checkElements_cons]
    exact (h.under (.index i)).seq (.inl rfl)
  | cons w rest ih =>
    have hLater := ih (i + 1)
    rw [Nat.add_right_comm, Nat.add_assoc, ← List.length_cons (a := w)] at hLater
    rw [List.cons_append, List.cons_append, checkElements_cons, checkElements_cons]
    exact Agree.seq (.inl rfl) hLater

/-- The check for undeclared keys looks at keys only. -/
theorem checkKeys_congr (h : members.map Prod.fst = members'.map Prod.fst)
    (fields : List (String × Field)) :
    checkKeys rules fields members = checkKeys rules fields members' := by
  have hKeys (members : List (String × Value)) : checkKeys rules fields members =
      if rules.rejectUnknown then
        ((members.map Prod.fst).find? fun key => (fields.lookup key).isNone).elim (.ok ())
          fun key => .error ⟨[], .unknown key⟩
      else .ok () := by
    rw [checkKeys, List.find?_map]
    simp only [Function.comp_def]
    cases members.find? fun m => (fields.lookup m.1).isNone <;> rfl
  rw [hKeys, hKeys, h]

/-- The first undeclared key is the same in both, or it is the one that makes the difference. -/
theorem agree_checkKeys {name : String} (h : Value.AlikeBut name members members')
    (fields : List (String × Field)) :
    Agree (rules.rejectUnknown = true) ⟨[], .unknown name⟩ (checkKeys rules fields members)
      (checkKeys rules fields members') := by
  rw [checkKeys, checkKeys]
  cases rules.rejectUnknown with
  | false => exact .inl rfl
  | true =>
    by_cases hFirst : ∃ v, members.find? (fun m => (fields.lookup m.1).isNone) = some (name, v)
    · obtain ⟨v, hFirst⟩ := hFirst
      exact .inr ⟨rfl, .inl (by simp [hFirst])⟩
    by_cases hFirst' : ∃ v, members'.find? (fun m => (fields.lookup m.1).isNone) = some (name, v)
    · obtain ⟨v, hFirst'⟩ := hFirst'
      exact .inr ⟨rfl, .inr (by simp [hFirst'])⟩
    have hSame : members.find? (fun m => (fields.lookup m.1).isNone) =
        members'.find? fun m => (fields.lookup m.1).isNone := by
      rw [← Value.find?_filter_of_ne (not_exists.mp hFirst), h,
        Value.find?_filter_of_ne (not_exists.mp hFirst')]
    simp only [hSame]
    exact .inl rfl

end Validation

/-- A change of an object's members that a check for declared fields does not notice where `name` is
not declared, and by which checks come apart under the condition only. -/
structure Unseen (rules : Rules) (name : String)
    (change : List (String × Value) → List (String × Value) → Prop) (apart : Prop) : Prop where
  lookup {members members' : List (String × Value)} {key : String} :
    change members members' → key ≠ name → members.lookup key = members'.lookup key
  keys {members members' : List (String × Value)} (fields : List (String × Field)) :
    change members members' → Agree apart ⟨[], .unknown name⟩
      (Validation.checkKeys rules fields members) (Validation.checkKeys rules fields members')

theorem unseen_alikeBut (rules : Rules) (name : String) :
    Unseen rules name (Value.AlikeBut name) (rules.rejectUnknown = true) :=
  ⟨Value.AlikeBut.lookup, fun fields h => Validation.agree_checkKeys h fields⟩

theorem unseen_revalued (rules : Rules) (name : String) :
    Unseen rules name (Value.Revalued name) False :=
  ⟨fun h => h.alikeBut.lookup, fun fields h => .inl (Validation.checkKeys_congr h.keys fields)⟩

/-- A check that does not know of the field `name` at a place: unseen changes make no difference,
but if undeclared keys are refused then no data that holds the field passes. -/
structure BlindAt (rules : Rules) (check : Value → Except Failure Unit) (place : List DataStep)
    (name : String) : Prop where
  agree {change : List (String × Value) → List (String × Value) → Prop} {apart : Prop}
    {v v' : Value} : Unseen rules name change apart → Value.Differ change place v v' →
    Agree apart ⟨place, .unknown name⟩ (check v) (check v')
  refuse {v w : Value} : rules.rejectUnknown = true →
    v.at? (place ++ [.field name]) = some w → check v ≠ .ok ()

/-- A check is blind to an entry at every place that goes with the entry's. -/
def Blind (rules : Rules) (check : Value → Except Failure Unit) (entry : List DefinitionStep) :
    Prop :=
  ∃ around name, entry = around ++ [.field name] ∧
    ∀ place, place.map DataStep.declared = around → BlindAt rules check place name

theorem Blind.blindAt {rules : Rules} {check : Value → Except Failure Unit} {place : List DataStep}
    {name : String} (h : Blind rules check (place.map DataStep.declared ++ [.field name])) :
    BlindAt rules check place name := by
  obtain ⟨around, other, hEntry, hBlind⟩ := h
  obtain ⟨rfl, hName⟩ := List.append_inj' hEntry rfl
  obtain rfl : name = other := by simpa using hName
  exact hBlind place rfl

/-- What has its entry at `entry` below a field's is out of sight: the field is not declared, or its
own check is blind to it. -/
def OutOfSight (rules : Rules) (fields : List (String × Field)) (name : String)
    (entry : List DefinitionStep) : Prop :=
  (entry = [] ∨ ∃ f, (name, f) ∈ fields) ∧
    ∀ f, (name, f) ∈ fields → Blind rules (Validation.checkField rules f) entry

namespace Validation

variable {rules : Rules} {check : Value → Except Failure Unit} {name : String}
  {entry : List DefinitionStep}

theorem not_blind_nil : ¬Blind rules check [] := by
  rintro ⟨around, name, hEntry, -⟩
  simp at hEntry

theorem checkField_of_checkFields {fields : List (String × Field)} {f : Field}
    {members : List (String × Value)} {v : Value} (h : checkFields rules members fields = .ok ())
    (declared : (name, f) ∈ fields) (found : members.lookup name = some v) :
    checkField rules f v = .ok () := by
  induction fields with
  | nil => cases declared
  | cons m rest ih =>
    rw [checkFields_cons, seq_eq_ok_iff] at h
    rcases List.mem_cons.mp declared with rfl | declared
    · rw [checkDeclared, found] at h
      exact under_eq_ok_iff.mp h.1
    · exact ih h.2 declared

theorem blind_undeclared {fields : List (String × Field)} (h : ∀ f, (name, f) ∉ fields) :
    Blind rules (Schema.validate rules (.mk fields)) [.field name] := by
  refine ⟨[], name, rfl, fun place hPlace => ?_⟩
  obtain rfl := List.map_eq_nil_iff.mp hPlace
  constructor
  · intro change apart v v' unseen differ
    cases differ with
    | here hChange =>
      rw [Schema.validate, Schema.validate, checkSchema_mk, checkSchema_mk]
      refine (agree_checkFields fun m hMem => .inl ?_).seq (unseen.keys fields hChange)
      have hOther : m.1 ≠ name := by
        rintro rfl
        exact h m.2 hMem
      exact checkDeclared_congr (unseen.lookup hChange hOther) m.2
  · intro v w hReject hAt hPasses
    cases v with
    | object members =>
      rw [Schema.validate, checkSchema_mk, seq_eq_ok_iff, checkKeys_eq_ok_iff] at hPasses
      obtain ⟨u, hLookup, -⟩ := Option.bind_eq_some_iff.mp hAt
      obtain ⟨front, back, rfl, -⟩ := List.lookup_eq_some_iff.mp hLookup
      obtain ⟨f, hMem⟩ := hPasses.2 hReject name u (by simp)
      exact h f hMem
    | _ => cases hAt

theorem blind_declared {fields : List (String × Field)} {f : Field} (declared : (name, f) ∈ fields)
    (h : ∀ f, (name, f) ∈ fields → Blind rules (checkField rules f) entry) :
    Blind rules (Schema.validate rules (.mk fields)) (.field name :: entry) := by
  obtain ⟨around, last, rfl, -⟩ := h f declared
  refine ⟨.field name :: around, last, rfl, fun place hPlace => ?_⟩
  obtain ⟨step, place, rfl, hStep, rfl⟩ := List.map_eq_cons_iff.mp hPlace
  cases step with
  | index => cases hStep
  | field key =>
    obtain rfl : key = name := DefinitionStep.field.inj hStep
    constructor
    · intro change apart v v' unseen differ
      cases differ with
      | @field _ _ front back w w' differ =>
        have hRevalued :
            Value.Revalued key (front ++ (key, w) :: back) (front ++ (key, w') :: back) :=
          ⟨front, back, w, w', rfl, rfl⟩
        rw [Schema.validate, Schema.validate, checkSchema_mk, checkSchema_mk,
          checkKeys_congr hRevalued.keys fields]
        refine (agree_checkFields fun m hDeclared => ?_).seq (.inl rfl)
        obtain ⟨k, g⟩ := m
        by_cases hName : k = key
        · subst hName
          exact agree_checkDeclared ((h g hDeclared).blindAt.agree unseen differ) front back
        · exact .inl (checkDeclared_congr (hRevalued.alikeBut.lookup hName) g)
    · intro v w hReject hAt hPasses
      cases v with
      | object members =>
        rw [Schema.validate, checkSchema_mk, seq_eq_ok_iff] at hPasses
        obtain ⟨u, hLookup, hAt⟩ := Option.bind_eq_some_iff.mp hAt
        exact (h f declared).blindAt.refuse hReject hAt
          (checkField_of_checkFields hPasses.1 declared hLookup)
      | _ => cases hAt

theorem blind_of_outOfSight {s : Schema} (h : OutOfSight rules s.fields name entry) :
    Blind rules (s.validate rules) (.field name :: entry) := by
  obtain ⟨fields⟩ := s
  obtain ⟨rfl | ⟨f, hMem⟩, hEach⟩ := h
  · exact blind_undeclared fun f hMem => not_blind_nil (hEach f hMem)
  · exact blind_declared hMem hEach

/-- A check that takes objects as a schema does is as blind as the schema. -/
theorem blind_object {s : Schema} (h : Blind rules (s.validate rules) (.field name :: entry))
    (same : ∀ members, check (.object members) = s.validate rules (.object members)) :
    Blind rules check (.field name :: entry) := by
  obtain ⟨around, last, hEntry, hBlind⟩ := h
  refine ⟨around, last, hEntry, fun place hPlace => ?_⟩
  have hIndex {i : Nat} {rest : List DataStep} : place ≠ .index i :: rest := by
    rintro rfl
    subst hPlace
    simp [DataStep.declared] at hEntry
  constructor
  · intro change apart v v' unseen differ
    have hAgree := (hBlind place hPlace).agree unseen differ
    cases differ with
    | here => rwa [same, same]
    | field => rwa [same, same]
    | index => exact absurd rfl hIndex
  · intro v w hReject hAt
    obtain ⟨members, rfl⟩ := Value.object_of_at? hAt fun i rest => hIndex
    rw [same]
    exact (hBlind place hPlace).refuse hReject hAt

theorem blind_array {items : Items} (h : Blind rules (checkItem rules items) entry) :
    Blind rules (checkShape rules (.array (some items))) (.items :: entry) := by
  obtain ⟨around, last, rfl, hBlind⟩ := h
  refine ⟨.items :: around, last, rfl, fun place hPlace => ?_⟩
  obtain ⟨step, place, rfl, hStep, hRest⟩ := List.map_eq_cons_iff.mp hPlace
  cases step with
  | field => cases hStep
  | index i =>
    constructor
    · intro change apart v v' unseen differ
      cases differ with
      | @index _ front back w w' differ =>
        have hElement := (hBlind place hRest).agree unseen differ
        have hElements := agree_checkElements hElement front back 0
        rwa [Nat.zero_add] at hElements
    · intro v w hReject hAt hPasses
      cases v with
      | array vs =>
        obtain ⟨u, hItem, hAt⟩ := Option.bind_eq_some_iff.mp hAt
        have hAll : ∀ v ∈ vs, checkItem rules items v = .ok () := checkElements_eq_ok_iff.mp hPasses
        exact (hBlind place hRest).refuse hReject hAt (hAll u (List.mem_of_getElem? hItem))
      | _ => cases hAt

end Validation

open Definition Validation

/-- A check is blind to all that a reading below a path left out. -/
def BlindToAll (rules : Rules) (check : Value → Except Failure Unit) (path : List DefinitionStep)
    (noted : List Skipped) : Prop :=
  ∀ what ∈ noted, ∃ entry, what.entry = path ++ entry ∧ Blind rules check entry

theorem mem_keys_of_mem_fields [Pattern.Engine] {path : List DefinitionStep} {noted : List Skipped}
    {s : Schema} {entries : Entries} (h : readFields .lenient path entries = .ok (s, noted))
    {name : String} {f : Field} (hMem : (name, f) ∈ s.fields) : name ∈ entries.map Prod.fst := by
  rw [fields_readFields_lenient h, List.mem_filterMap] at hMem
  obtain ⟨⟨key, raw⟩, hEntry, hRead⟩ := hMem
  obtain ⟨_, -, hSame⟩ := Option.map_eq_some_iff.mp hRead
  obtain ⟨rfl, -⟩ := Prod.mk.inj hSame
  exact List.mem_map_of_mem hEntry

section Blindness

variable [Pattern.Engine] (rules : Rules)

-- Every entry is noted at its own level, so what a level notes of its own is not declared there,
-- and what it notes of deeper levels is passed on by the one field that declares them.
mutual

theorem outOfSight_readFields {path : List DefinitionStep} {noted : List Skipped} {s : Schema} :
    (entries : Entries) → (Value.object entries).KeysDistinct →
    readFields .lenient path entries = .ok (s, noted) →
    ∀ what ∈ noted, ∃ name entry, what.entry = path ++ .field name :: entry ∧
      name ∈ entries.map Prod.fst ∧ OutOfSight rules s.fields name entry
  | [], _, h, what, hWhat => by
    rw [readFields] at h
    cases h
    cases hWhat
  | (name, raw) :: rest, distinct, h, what, hWhat => by
    obtain ⟨hFresh, -⟩ := List.nodup_cons.mp (distinct _ .here)
    obtain ⟨others, notedRest, hRest⟩ := exists_readFields_lenient path rest
    have hKeys {n : String} {f : Field} (hMem : (n, f) ∈ others.fields) : n ≠ name := by
      rintro rfl
      exact hFresh (mem_keys_of_mem_fields hRest hMem)
    have ihRest := outOfSight_readFields rest distinct.tail hRest
    rw [readFields, hRest] at h
    cases hEntry : readEntry .lenient (path ++ [.field name]) name raw with
    | error e =>
      rw [hEntry] at h
      cases h
      rcases List.mem_cons.mp hWhat with rfl | hWhat
      · exact ⟨name, [], rfl, List.mem_cons_self, .inl rfl, fun f hMem => absurd rfl (hKeys hMem)⟩
      · obtain ⟨n, entry, hWhere, hName, hSight⟩ := ihRest what hWhat
        exact ⟨n, entry, hWhere, List.mem_cons_of_mem _ hName, hSight⟩
    | ok read =>
      obtain ⟨f, notedEntry⟩ := read
      have ihEntry : BlindToAll rules (checkField rules f) (path ++ [.field name]) notedEntry :=
        blindToAll_readEntry raw (distinct.member List.mem_cons_self) hEntry
      rw [hEntry] at h
      cases h
      rcases List.mem_append.mp hWhat with hWhat | hWhat
      · obtain ⟨entry, hWhere, hBlind⟩ := ihEntry what hWhat
        refine ⟨name, entry, by simpa using hWhere, List.mem_cons_self,
          .inr ⟨f, List.mem_cons_self⟩, fun g hMem => ?_⟩
        rcases List.mem_cons.mp hMem with hSame | hMem
        · obtain ⟨-, rfl⟩ := Prod.mk.inj hSame
          exact hBlind
        · exact absurd rfl (hKeys hMem)
      · obtain ⟨n, entry, hWhere, hName, hDeclared, hEach⟩ := ihRest what hWhat
        refine ⟨n, entry, hWhere, List.mem_cons_of_mem _ hName,
          hDeclared.imp_right fun ⟨g, hMem⟩ => ⟨g, List.mem_cons_of_mem _ hMem⟩, fun g hMem => ?_⟩
        rcases List.mem_cons.mp hMem with hSame | hMem
        · obtain ⟨rfl, -⟩ := Prod.mk.inj hSame
          exact absurd hName hFresh
        · exact hEach g hMem
termination_by entries => 3 * sizeOf entries

theorem blindToAll_readEntry {path : List DefinitionStep} {noted : List Skipped} {name : String}
    {f : Field} : (raw : Value) → raw.KeysDistinct →
    readEntry .lenient path name raw = .ok (f, noted) →
    BlindToAll rules (checkField rules f) path noted
  | raw, distinct, h => by
    obtain ⟨-, entries, rfl, hRead⟩ := readEntry_eq_ok_iff.mp h
    exact blindToAll_readField entries distinct hRead
termination_by raw => 3 * sizeOf raw

theorem blindToAll_readField {path : List DefinitionStep} {noted : List Skipped} {f : Field} :
    (entries : Entries) → (Value.object entries).KeysDistinct →
    readField .lenient path entries = .ok (f, noted) →
    BlindToAll rules (checkField rules f) path noted
  | entries, distinct, h => by
    obtain ⟨kind, required, shape, -, -, -, hShape, rfl⟩ := readField_eq_ok_iff.mp h
    exact blindToAll_readShape kind entries distinct hShape
termination_by entries => 3 * sizeOf entries + 2

theorem blindToAll_readShape {path : List DefinitionStep} {noted : List Skipped} {shape : Shape} :
    (kind : Kind) → (entries : Entries) → (Value.object entries).KeysDistinct →
    readShape .lenient path kind entries = .ok (shape, noted) →
    BlindToAll rules (checkShape rules shape) path noted
  | kind, entries, distinct, h => by
    cases kind with
    | object =>
      rcases readShape_object_eq_ok_iff.mp h with ⟨-, -, rfl⟩ |
        ⟨key, inner, s, hNested, hRead, rfl⟩
      · nofun
      · have hSize : 1 + sizeOf inner < sizeOf entries := by
          simpa using nestedEntry?_sizeOf hNested
        intro what hWhat
        obtain ⟨name, entry, hWhere, -, hSight⟩ :=
          outOfSight_readFields inner (distinct.nested hNested) hRead what hWhat
        exact ⟨_, hWhere, blind_object (blind_of_outOfSight hSight) fun _ => rfl⟩
    | array =>
      rcases readShape_array_eq_ok_iff.mp h with ⟨-, -, -, rfl⟩ |
        ⟨raw, items, hItems, hRead, rfl⟩
      · nofun
      · have hSize : sizeOf raw < sizeOf entries := Value.lookup_sizeOf hItems
        intro what hWhat
        obtain ⟨entry, hWhere, hBlind⟩ :=
          blindToAll_readItems raw (distinct.lookup hItems) hRead what hWhat
        exact ⟨.items :: entry, by simpa using hWhere, blind_array hBlind⟩
    | _ =>
      all_goals
        obtain rfl := noted_of_flat (by simp) (by simp) h
        nofun
termination_by _ entries => 3 * sizeOf entries + 1

theorem blindToAll_readItems {path : List DefinitionStep} {noted : List Skipped} {items : Items} :
    (raw : Value) → raw.KeysDistinct → readItems .lenient path raw = .ok (items, noted) →
    BlindToAll rules (checkItem rules items) (path ++ [.items]) noted
  | raw, distinct, h => by
    rcases readItems_eq_ok_iff.mp h with ⟨-, -, -, -, -, rfl⟩ |
      ⟨entries, f, rfl, -, hRead, rfl⟩ | ⟨entries, s, rfl, -, hRead, rfl⟩
    · nofun
    · exact blindToAll_readField entries distinct hRead
    · intro what hWhat
      obtain ⟨name, entry, hWhere, -, hSight⟩ :=
        outOfSight_readFields entries distinct hRead what hWhat
      exact ⟨_, hWhere, blind_object (blind_of_outOfSight hSight) fun _ => rfl⟩
termination_by raw => 3 * sizeOf raw

end

end Blindness

/-- An entry that a stored definition's reading leaves out is not looked at in data: the value of
its field makes no difference, and neither does its absence unless undeclared keys are refused. If
they are, its field is such a key, and no data that holds it passes. -/
theorem Schema.ofStored_blind_to_left_out [Pattern.Engine] {definition : Value}
    (distinct : definition.KeysDistinct) {what : Skipped}
    (left_out : .skipped what ∈ (ofStored definition).2) (rules : Rules) :
    ∃ around name, what.entry = around ++ [.field name] ∧
      ∀ place, place.map DataStep.declared = around →
        let judge := (ofStored definition).1.validate rules
        (∀ data data', Value.Differ (Value.AlikeBut name) place data data' →
          judge data = judge data' ∨ rules.rejectUnknown = true ∧
            (judge data = .error ⟨place, .unknown name⟩ ∨
              judge data' = .error ⟨place, .unknown name⟩)) ∧
        (∀ data data', Value.Differ (Value.Revalued name) place data data' →
          judge data = judge data') ∧
        (rules.rejectUnknown = true → ∀ data v, data.at? (place ++ [.field name]) = some v →
          judge data ≠ .ok ()) := by
  cases definition with
  | object entries =>
    obtain ⟨s, noted, hRead⟩ := exists_readFields_lenient [] entries
    simp only [ofStored, hRead, List.mem_map, DefinitionNotice.skipped.injEq, exists_eq_right]
      at left_out ⊢
    obtain ⟨first, entry, hEntry, -, hSight⟩ :=
      outOfSight_readFields rules entries distinct hRead what left_out
    obtain ⟨around, name, hLast, hBlind⟩ := blind_of_outOfSight hSight
    refine ⟨around, name, hEntry.trans hLast, fun place hPlace => ?_⟩
    have hBlindAt := hBlind place hPlace
    refine ⟨fun data data' differ => hBlindAt.agree (unseen_alikeBut rules name) differ,
      fun data data' differ => ?_, fun hReject data v hAt => hBlindAt.refuse hReject hAt⟩
    rcases hBlindAt.agree (unseen_revalued rules name) differ with hSame | ⟨hFalse, -⟩
    · exact hSame
    · exact hFalse.elim
  | _ => simp [ofStored] at left_out

/-- An entry is left out of what an array's elements hold. -/
theorem Schema.ofStored_blind_to_left_out_age :
    let name : Value := .object [("type", .text "string")]
    let people : Value := .object [("type", .text "array"),
      ("items", .object [("name", name), ("age", .int 5)])]
    let definition : Value := .object [("people", people)]
    let data (age : Value) : Value :=
      .object [("people", .array [.object [("name", .text "Jane"), ("age", age)]])]
    let rules : Rules := { rejectUnknown := true }
    let judge := (ofStored definition).1.validate rules
    definition.KeysDistinct ∧
      .skipped ⟨[.field "people", .items, .field "age"],
        [.field "people", .items, .field "age"], .notMapping⟩ ∈ (ofStored definition).2 ∧
      judge (data (.int 3)) = judge (data .null) ∧ judge (data .null) ≠ .ok () := by
  intro name people definition data rules judge
  have hText (s : String) : (Value.text s).KeysDistinct := by rintro inner ⟨⟩
  have hInt (n : Int64) : (Value.int n).KeysDistinct := by rintro inner ⟨⟩
  have distinct : definition.KeysDistinct := by
    simp [definition, people, name, Value.keysDistinct_object_iff, hText, hInt]
  have left_out : .skipped ⟨[.field "people", .items, .field "age"],
      [.field "people", .items, .field "age"], .notMapping⟩ ∈ (ofStored definition).2 := by
    decide +kernel
  obtain ⟨around, last, hEntry, hBlind⟩ := ofStored_blind_to_left_out distinct left_out rules
  have hSplit : [DefinitionStep.field "people", DefinitionStep.items] ++
      [DefinitionStep.field "age"] = around ++ [DefinitionStep.field last] := hEntry
  obtain ⟨rfl, hLast⟩ := List.append_inj' hSplit rfl
  obtain rfl : "age" = last := by simpa using hLast
  obtain ⟨-, hRevalued, hRefused⟩ := hBlind [.field "people", .index 0] rfl
  have differ : Value.Differ (Value.Revalued "age") [.field "people", .index 0] (data (.int 3))
      (data .null) :=
    @Value.Differ.field _ _ _ [] [] _ _ (@Value.Differ.index _ _ [] [] _ _
      (.here ⟨[("name", .text "Jane")], [], _, _, rfl, rfl⟩))
  refine ⟨distinct, left_out, ?_⟩
  dsimp only [judge]
  exact ⟨hRevalued _ _ differ, hRefused rfl (data .null) .null rfl⟩

/-- Where undeclared keys are refused, it does matter whether the field of an entry left out is
there. -/
theorem Schema.left_out_field_refused :
    let definition : Value :=
      .object [("name", .object [("type", .text "string")]), ("age", .int 5)]
    let rules : Rules := { rejectUnknown := true }
    let judge := (ofStored definition).1.validate rules
    (ofStored definition).2 = [.skipped ⟨[.field "age"], [.field "age"], .notMapping⟩] ∧
      judge (.object [("name", .text "Jane")]) = .ok () ∧
      judge (.object [("name", .text "Jane"), ("age", .int 3)]) = .error ⟨[], .unknown "age"⟩ := by
  decide +kernel

end Intake
