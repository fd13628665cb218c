import Intake.Double.Rounding
import Intake.Schema
import Intake.Value

/-! # Definitions of schemas

A definition is a value that is read as a schema. Read strictly, its first faulty entry refuses the
whole; read leniently, a faulty entry is left out and noted at its own level, keys that do not
belong are ignored, and an array may say nothing of its items.
-/

namespace Intake

/-- How a definition is read. -/
inductive Reading where
  | strict
  | lenient
deriving DecidableEq

/-- A step into a definition. -/
inductive DefinitionStep where
  | field (name : String)
  | items
deriving DecidableEq

/-- What is wrong with an entry. -/
inductive Fault where
  | emptyName
  | dollarName
  | dottedName
  | notMapping
  | typeMissing
  | typeUnknown (name : String)
  | typeNotText
  | keyNotAllowed (key : String) (kind : Kind)
  | requiredNotBoolean
  | patternNotText
  | patternUnreadable (source : String)
  | lengthNotNatural (key : String)
  | lengthsCrossed
  | boundNotNumber (key : String)
  | boundsCrossed
  | nestedNotMapping (key : String)
  | itemsMissing
  | itemsUnreadable
deriving DecidableEq

/-- A faulty entry: where it is and what is wrong. -/
structure Malformed where
  path : List DefinitionStep
  fault : Fault
deriving DecidableEq

inductive DefinitionError where
  | notMapping
  | malformed (entry : Malformed)
deriving DecidableEq

/-- An entry that a lenient reading left out, and the reason, which may lie deeper. -/
structure Skipped where
  entry : List DefinitionStep
  reason : Malformed
deriving DecidableEq

/-- What a lenient reading has to say. -/
inductive DefinitionNotice where
  | skipped (what : Skipped)
  | notMapping (found : String)
deriving DecidableEq

namespace Fault

def message : Fault → String
  | emptyName => "has an empty name"
  | dollarName => "must not start with '$'"
  | dottedName => "must not contain '.'"
  | notMapping => "must be a mapping"
  | typeMissing => "is missing 'type'"
  | typeUnknown name => "has unrecognized type '" ++ name ++ "'"
  | typeNotText => "'type' must be a string"
  | keyNotAllowed key kind => "key '" ++ key ++ "' is not allowed for type '" ++ kind.name ++ "'"
  | requiredNotBoolean => "'required' must be a boolean"
  | patternNotText => "'pattern' must be a string"
  | patternUnreadable source => "'pattern' is not a valid regular expression: '" ++ source ++ "'"
  | lengthNotNatural key => "'" ++ key ++ "' must be a non-negative integer"
  | lengthsCrossed => "'minLength' must not exceed 'maxLength'"
  | boundNotNumber key => "'" ++ key ++ "' must be a number"
  | boundsCrossed => "'minimum' must not exceed 'maximum'"
  | nestedNotMapping key => "'" ++ key ++ "' must be a mapping"
  | itemsMissing => "of type 'array' must declare 'items'"
  | itemsUnreadable => "'items' must be a type name or a mapping"

end Fault

/-- A path as it is written: names with points between them, and brackets for items. -/
def DefinitionStep.pathText : List DefinitionStep → String
  | [] => ""
  | .field name :: rest => rest.foldl next name
  | .items :: rest => rest.foldl next "[]"
where
  next (done : String) : DefinitionStep → String
    | .field name => done ++ "." ++ name
    | .items => done ++ "[]"

namespace Malformed

def pathText (m : Malformed) : String := DefinitionStep.pathText m.path

def message (m : Malformed) : String :=
  "invalid schema: field '" ++ m.pathText ++ "' " ++ m.fault.message

end Malformed

namespace DefinitionError

def code (_ : DefinitionError) : String := "MALFORMED_SCHEMA"

def message : DefinitionError → String
  | notMapping => "invalid schema: schema must be an object"
  | malformed entry => entry.message

def field? : DefinitionError → Option String
  | notMapping => none
  | malformed entry => some entry.pathText

end DefinitionError

namespace Definition

/-- The members of a definition. -/
abbrev Entries := List (String × Value)

def checkName (name : String) : Except Fault Unit :=
  if name = "" then .error .emptyName
  else if name.toList.head? = some '$' then .error .dollarName
  else if '.' ∈ name.toList then .error .dottedName
  else .ok ()

def readKind (entries : Entries) : Except Fault Kind :=
  match entries.lookup "type" with
  | none => .error .typeMissing
  | some (.text name) =>
    match Kind.ofName? name with
    | some kind => .ok kind
    | none => .error (.typeUnknown name)
  | some _ => .error .typeNotText

/-- A strict reading refuses the first key that does not belong to the kind. -/
def checkKeys (reading : Reading) (kind : Kind) (entries : Entries) : Except Fault Unit :=
  match reading with
  | .lenient => .ok ()
  | .strict =>
    match entries.find? fun (key, _) => !kind.allowsKey key with
    | some (key, _) => .error (.keyNotAllowed key kind)
    | none => .ok ()

/-- A lenient reading takes what is no boolean for false. -/
def readRequired (reading : Reading) (entries : Entries) : Except Fault Bool :=
  match entries.lookup "required", reading with
  | none, _ => .ok false
  | some (.bool b), _ => .ok b
  | some _, .lenient => .ok false
  | some _, .strict => .error .requiredNotBoolean

def readPattern [Pattern.Engine] (entries : Entries) : Except Fault (Option Pattern) :=
  match entries.lookup "pattern" with
  | none => .ok none
  | some (.text source) =>
    match Pattern.ofSource? source with
    | some p => .ok (some p)
    | none => .error (.patternUnreadable source)
  | some _ => .error .patternNotText

def readLength (entries : Entries) (key : String) : Except Fault (Option Nat) :=
  match entries.lookup key with
  | none => .ok none
  | some (.int n) =>
    if 0 ≤ n.toInt then .ok (some n.toInt.toNat) else .error (.lengthNotNatural key)
  | some _ => .error (.lengthNotNatural key)

def readBound (entries : Entries) (key : String) : Except Fault (Option Double) :=
  match entries.lookup key with
  | none => .ok none
  | some (.int n) => .ok (some (Double.ofInt n.toInt))
  | some (.float x) => if x.isFinite then .ok (some x) else .error (.boundNotNumber key)
  | some _ => .error (.boundNotNumber key)

/-- Whether two optional bounds are the wrong way round. -/
def crossed {α : Type} (lt : α → α → Bool) (least most : Option α) : Bool :=
  match least, most with
  | some a, some b => lt b a
  | _, _ => false

def readTextLimits [Pattern.Engine] (entries : Entries) : Except Fault TextLimits := do
  let pattern ← readPattern entries
  let least ← readLength entries "minLength"
  let most ← readLength entries "maxLength"
  if crossed (fun a b => decide (a < b)) least most then .error .lengthsCrossed
  else .ok ⟨pattern, least, most⟩

def readBounds (entries : Entries) : Except Fault Bounds := do
  let least ← readBound entries "minimum"
  let most ← readBound entries "maximum"
  if crossed Double.lt least most then .error .boundsCrossed else .ok ⟨least, most⟩

/-- The nested definition of an object: under `properties`, or else under `schema`. -/
def nestedEntry? (entries : Entries) : Option (String × Value) :=
  match entries.lookup "properties" with
  | some raw => some ("properties", raw)
  | none => (entries.lookup "schema").map fun raw => ("schema", raw)

/-- Whether a mapping describes an element itself, as opposed to the fields of every element. -/
def describesElement (entries : Entries) : Bool :=
  match entries.lookup "type" with
  | some (.text _) => true
  | _ => false

/-- What is read, with the entries that were left out. -/
abbrev Outcome (α : Type) := Except Malformed (α × List Skipped)

def blame {α : Type} (path : List DefinitionStep) : Except Fault α → Except Malformed α
  | .ok a => .ok a
  | .error fault => .error ⟨path, fault⟩

theorem nestedEntry?_sizeOf {entries : Entries} {key : String} {raw : Value}
    (h : nestedEntry? entries = some (key, raw)) : sizeOf raw < sizeOf entries := by
  unfold nestedEntry? at h
  split at h
  · next v hv =>
    cases h
    exact Value.lookup_sizeOf hv
  · obtain ⟨v, hv, hk⟩ := Option.map_eq_some_iff.1 h
    cases hk
    exact Value.lookup_sizeOf hv

variable [Pattern.Engine]

mutual

def readFields (reading : Reading) (path : List DefinitionStep) (entries : Entries) :
    Outcome Schema :=
  match entries with
  | [] => .ok (.empty, [])
  | (name, raw) :: rest =>
    match readEntry reading (path ++ [.field name]) name raw, readFields reading path rest with
    | .ok (field, noted), .ok (others, noted') =>
      .ok (.mk ((name, field) :: others.fields), noted ++ noted')
    | .ok _, .error e => .error e
    | .error e, others =>
      match reading, others with
      | .lenient, .ok (others, noted) => .ok (others, ⟨path ++ [.field name], e⟩ :: noted)
      | _, _ => .error e
termination_by 3 * sizeOf entries

def readEntry (reading : Reading) (path : List DefinitionStep) (name : String) (raw : Value) :
    Outcome Field :=
  match blame path (checkName name) with
  | .error e => .error e
  | .ok () =>
    match raw with
    | .object entries => readField reading path entries
    | _ => .error ⟨path, .notMapping⟩
termination_by 3 * sizeOf raw

def readField (reading : Reading) (path : List DefinitionStep) (entries : Entries) :
    Outcome Field :=
  match blame path (readKind entries) with
  | .error e => .error e
  | .ok kind =>
    match blame path (checkKeys reading kind entries) with
    | .error e => .error e
    | .ok () =>
      match blame path (readRequired reading entries) with
      | .error e => .error e
      | .ok required =>
        match readShape reading path kind entries with
        | .error e => .error e
        | .ok (shape, noted) => .ok (.mk required shape, noted)
termination_by 3 * sizeOf entries + 2

def readShape (reading : Reading) (path : List DefinitionStep) (kind : Kind) (entries : Entries) :
    Outcome Shape :=
  match kind with
  | .string => (blame path (readTextLimits entries)).map fun limits => (.text limits, [])
  | .number => (blame path (readBounds entries)).map fun bounds => (.number bounds, [])
  | .double => (blame path (readBounds entries)).map fun bounds => (.double bounds, [])
  | .boolean => .ok (.boolean, [])
  | .null => .ok (.null, [])
  | .date => .ok (.date, [])
  | .timestamp => .ok (.timestamp, [])
  | .object =>
    match h : nestedEntry? entries with
    | none => .ok (.object none, [])
    | some (_, .object inner) =>
      have : 1 + sizeOf inner < sizeOf entries := by simpa using nestedEntry?_sizeOf h
      (readFields reading path inner).map fun (schema, noted) => (.object (some schema), noted)
    | some (key, _) => .error ⟨path, .nestedNotMapping key⟩
  | .array =>
    match h : entries.lookup "items" with
    | none =>
      match reading with
      | .strict => .error ⟨path, .itemsMissing⟩
      | .lenient => .ok (.array none, [])
    | some raw =>
      have := Value.lookup_sizeOf h
      (readItems reading path raw).map fun (items, noted) => (.array (some items), noted)
termination_by 3 * sizeOf entries + 1

def readItems (reading : Reading) (path : List DefinitionStep) (raw : Value) : Outcome Items :=
  match raw with
  | .text name =>
    match Kind.ofName? name with
    | some kind => .ok (.kind kind, [])
    | none => .error ⟨path ++ [.items], .typeUnknown name⟩
  | .object entries =>
    if describesElement entries then
      (readField reading (path ++ [.items]) entries).map fun (field, noted) => (.field field, noted)
    else
      (readFields reading (path ++ [.items]) entries).map fun (schema, noted) =>
        (.schema schema, noted)
  | _ => .error ⟨path, .itemsUnreadable⟩
termination_by 3 * sizeOf raw

end

end Definition

namespace Schema

/-- Reads a definition that must be right throughout. -/
def ofDefinition [Pattern.Engine] (definition : Value) : Except DefinitionError Schema :=
  match definition with
  | .object entries =>
    match Definition.readFields .strict [] entries with
    | .ok (schema, _) => .ok schema
    | .error e => .error (.malformed e)
  | _ => .error .notMapping

/-- Reads a definition that was accepted before: what is faulty is left out and noted. -/
def ofStored [Pattern.Engine] (definition : Value) : Schema × List DefinitionNotice :=
  match definition with
  | .object entries =>
    match Definition.readFields .lenient [] entries with
    | .ok (schema, noted) => (schema, noted.map .skipped)
    | .error _ => (empty, [])
  | other => (empty, [.notMapping other.representation])

end Schema

end Intake
