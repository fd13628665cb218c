import Intake.Json.Reader
import Intake.Instant.Reader

/-! # Reading records

A record is written as an object with members in any order, or as an array of its fields in order.
Members that no field claims are skipped, a repeated field is refused, and fields with a default
may be left out. A text that is no JSON is `malformed`, JSON of another shape is `unfit`; the fault
is the one that a reader from left to right meets first.
-/

namespace Intake.Json

inductive Fault where
  | malformed
  | unfit
deriving DecidableEq, Repr

def Fault.message : Fault → String
  | malformed => "not a JSON document"
  | unfit => "not of the expected form"

/-- What a field admits. -/
inductive Shape where
  | any
  | text
  | optionalText
  | texts
  | flag
  | natural (bound : Nat)
  | moment
  | oneOf (names : List String)

structure Field where
  name : String
  shape : Shape
  default : Option Json

def Field.required (name : String) (shape : Shape) : Field := ⟨name, shape, none⟩

def Field.optional (name : String) (shape : Shape) (default : Json) : Field :=
  ⟨name, shape, some default⟩

def Shape.admits : Shape → Json → Bool
  | .any, _ => true
  | .text, value => value.text?.isSome
  | .optionalText, .null => true
  | .optionalText, value => value.text?.isSome
  | .texts, .arr items => items.all fun item => item.text?.isSome
  | .flag, value => value.bool?.isSome
  | .natural bound, .int n => 0 ≤ n && n < bound
  | .moment, .str s => (Instant.readLoose? s.toList).isSome
  | .oneOf names, .str s => names.contains s
  | .oneOf names, .obj [(name, .null)] => names.contains name
  | _, _ => false

/-- Containers are refused where they open, unless the shape has some. -/
def Shape.refusesToken : Shape → Token → Bool
  | .any, _ => false
  | .texts, .openArray => false
  | .oneOf _, .openObject => false
  | _, .openArray => true
  | _, .openObject => true
  | _, _ => false

/-- The fields read so far, by name. -/
abbrev Row := List (String × Json)

/-- Reads the value of one field inside the container of the record. -/
def readField (shape : Shape) : List Token → Except Fault (Json × List Token)
  | [] => .error .malformed
  | token :: rest =>
    if shape.refusesToken token then .error .unfit
    else
      match run (deepest - 1) .value [] (token :: rest) with
      | some (value, rest) => if shape.admits value then .ok (value, rest) else .error .unfit
      | none => .error .malformed

theorem readField_length {shape : Shape} {tokens rest : List Token} {value : Json}
    (h : readField shape tokens = .ok (value, rest)) : rest.length < tokens.length := by
  cases tokens with
  | nil => simp [readField] at h
  | cons t ts =>
    simp only [readField] at h
    split at h
    · simp at h
    · split at h
      · next hr =>
        split at h
        · simp only [Except.ok.injEq, Prod.mk.injEq] at h
          have := run_length hr
          rw [← h.2]
          exact this
        · simp at h
      · simp at h

/-- What may follow inside a skipped value: an item, a key, or the end of one of them. -/
inductive Skip where
  | value
  | firstItem
  | firstKey
  | key
  | colon
  | separator
deriving DecidableEq

/-- Skipping keeps only the kinds of the open containers, `true` for objects. -/
def skipStep (want : Skip) (stack : List Bool) (token : Token) : Option (Skip × List Bool) :=
  match want, stack, token with
  | .value, _, .atom _ | .value, _, .text _ | .value, _, .unreadable => some (.separator, stack)
  | .firstItem, _, .atom _ | .firstItem, _, .text _ | .firstItem, _, .unreadable =>
    some (.separator, stack)
  | .value, _, .openArray | .firstItem, _, .openArray => some (.firstItem, false :: stack)
  | .value, _, .openObject | .firstItem, _, .openObject => some (.firstKey, true :: stack)
  | .firstItem, false :: outer, .closeArray => some (.separator, outer)
  | .firstKey, true :: outer, .closeObject => some (.separator, outer)
  | .firstKey, _, .text _ | .firstKey, _, .unreadable => some (.colon, stack)
  | .key, _, .text _ | .key, _, .unreadable => some (.colon, stack)
  | .colon, _, .colon => some (.value, stack)
  | .separator, false :: _, .comma => some (.value, stack)
  | .separator, true :: _, .comma => some (.key, stack)
  | .separator, false :: outer, .closeArray => some (.separator, outer)
  | .separator, true :: outer, .closeObject => some (.separator, outer)
  | _, _, _ => none

/-- Skips one value of any depth; what cannot be read may still be skipped. -/
def skip (want : Skip) (stack : List Bool) : List Token → Option (List Token)
  | [] => none
  | token :: rest =>
    match skipStep want stack token with
    | some (.separator, []) => some rest
    | some (want, stack) => skip want stack rest
    | none => none

theorem skip_length {want : Skip} {stack : List Bool} {tokens rest : List Token}
    (h : skip want stack tokens = some rest) : rest.length < tokens.length := by
  induction tokens generalizing want stack with
  | nil => simp [skip] at h
  | cons t ts ih =>
    simp only [skip] at h
    split at h
    · simp only [Option.some.injEq] at h
      simp [h]
    · have := ih h
      simp only [List.length_cons]
      omega
    · simp at h

/-- Fields that were left out take their defaults; one without a default is missed. -/
def fill (row : Row) : List Field → Except Fault Row
  | [] => .ok row
  | field :: fields =>
    if (row.lookup field.name).isSome then fill row fields
    else match field.default with
      | some value => fill (row ++ [(field.name, value)]) fields
      | none => .error .unfit

/-- Reads members up to the closing brace; `first` is true right behind the opening one. -/
def readMembers (fields : List Field) (first : Bool) (row : Row) (tokens : List Token) :
    Except Fault (Row × List Token) :=
  match tokens with
  | .closeObject :: rest => .ok (row, rest)
  | .comma :: .text key :: rest => if first then .error .malformed else readMember key rest
  | .text key :: rest => if first then readMember key rest else .error .malformed
  | _ => .error .malformed
termination_by (tokens.length, 0)
where
  /-- One member behind its key, and the members after it. -/
  readMember (key : String) (tokens : List Token) : Except Fault (Row × List Token) :=
    match fields.find? fun field => field.name = key with
    | some field =>
      if (row.lookup key).isSome then .error .unfit
      else
        match tokens with
        | .colon :: rest =>
          match _h : readField field.shape rest with
          | .ok (value, rest) => readMembers fields false (row ++ [(key, value)]) rest
          | .error fault => .error fault
        | _ => .error .malformed
    | none =>
      match tokens with
      | .colon :: rest =>
        match _h : skip .value [] rest with
        | some rest => readMembers fields false row rest
        | none => .error .malformed
      | _ => .error .malformed
  termination_by (tokens.length, 1)
  decreasing_by
    · have := readField_length _h
      simp only [List.length_cons]
      omega
    · have := skip_length _h
      simp only [List.length_cons]
      omega

/-- Reads items for the fields in order up to the closing bracket. -/
def readItems (first : Bool) (row : Row) (tokens : List Token) :
    List Field → Except Fault (Row × List Token)
  | [] =>
    match tokens with
    | .closeArray :: rest => .ok (row, rest)
    | _ => .error .malformed
  | field :: fields =>
    match first, tokens with
    | _, .closeArray :: rest => (fill row (field :: fields)).map fun row => (row, rest)
    | true, tokens =>
      match readField field.shape tokens with
      | .ok (value, rest) => readItems false (row ++ [(field.name, value)]) rest fields
      | .error fault => .error fault
    | false, .comma :: .closeArray :: _ => .error .malformed
    | false, .comma :: tokens =>
      match readField field.shape tokens with
      | .ok (value, rest) => readItems false (row ++ [(field.name, value)]) rest fields
      | .error fault => .error fault
    | false, _ => .error .malformed

/-- Reads one record and gives back the tokens behind it. -/
def readRecord (fields : List Field) (tokens : List Token) : Except Fault (Row × List Token) :=
  match tokens with
  | .openObject :: rest =>
    match readMembers fields true [] rest with
    | .ok (row, rest) => (fill row fields).map fun row => (row, rest)
    | .error fault => .error fault
  | .openArray :: rest => readItems true [] rest fields
  | .atom _ :: _ | .text _ :: _ => .error .unfit
  | _ => .error .malformed

/-- A record that is the whole text, or the head of it where `trailing` text is let pass. -/
def readRow (fields : List Field) (trailing : Bool) (text : List Char) : Except Fault Row :=
  match readRecord fields (tokens text) with
  | .ok (row, rest) => if trailing || rest.isEmpty then .ok row else .error .malformed
  | .error fault => .error fault

def Row.get (row : Row) (name : String) : Json := (row.lookup name).getD .null

def Row.text (row : Row) (name : String) : String := ((row.get name).text?).getD ""

def Row.flag (row : Row) (name : String) : Bool := ((row.get name).bool?).getD false

def Row.natural (row : Row) (name : String) : Nat := (((row.get name).int?).getD 0).toNat

def Row.texts (row : Row) (name : String) : List String :=
  match row.get name with
  | .arr items => items.filterMap text?
  | _ => []

/-- A name out of several, written alone or as the only key of an object. -/
def Row.choice (row : Row) (name : String) : String :=
  match row.get name with
  | .str s => s
  | .obj [(key, _)] => key
  | _ => ""

def Row.moment (row : Row) (name : String) : Instant :=
  (Instant.readLoose? (row.text name).toList).getD ⟨0, 0⟩

end Intake.Json
