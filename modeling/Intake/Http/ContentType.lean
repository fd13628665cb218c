import Intake.Http.Message

/-! # Content types

A body is taken for JSON if its content type is well formed and says `application/json`, or has the
suffix `json` within `application`.
-/

namespace Intake.Http.ContentType

def isTokenChar (c : Char) : Bool :=
  c.isAlphanum || "!#$&'*+-.^_%|~".toList.contains c || c == '\x60'

def isToken (text : List Char) : Bool := !text.isEmpty && text.all isTokenChar

def isQuotable (c : Char) : Bool := 0x20 ≤ c.toNat && c.toNat != 0x7F

/-- What stands behind the closing quote. -/
def closing? : List Char → Option (List Char)
  | [] => none
  | '"' :: rest => some rest
  | c :: rest => if isQuotable c then closing? rest else none

/-- A value in quotes is not empty; the character behind the opening quote never closes it. -/
def quoted? : List Char → Option (List Char)
  | [] => none
  | c :: rest => if isQuotable c then closing? rest else none

/-- What stands behind the semicolon after a quoted value; blanks may stand before it. -/
def behindQuoted? (text : List Char) : Option (List Char) :=
  match text.dropWhile (· == ' ') with
  | [] => some []
  | ';' :: rest => some rest
  | _ => none

/-- A plain value may be empty only at the end. -/
def plain? (text : List Char) : Option (List Char) :=
  let value := text.takeWhile (· != ';')
  match text.dropWhile (· != ';') with
  | [] => if value.all isTokenChar then some [] else none
  | _ :: rest => if isToken value then some rest else none

/-- One parameter, a name and a value, and the text behind it. -/
def parameter? (text : List Char) : Option (List Char) :=
  if !isToken (text.takeWhile (· != '=')) then none
  else
    match text.dropWhile (· != '=') with
    | '=' :: '"' :: rest => (quoted? rest).bind behindQuoted?
    | '=' :: rest => plain? rest
    | _ => none

/-- Whether parameters are well formed; blanks may stand before each. -/
def parameters (text : List Char) : Bool :=
  let trimmed := text.dropWhile (· == ' ')
  if trimmed.isEmpty then true
  else
    match parameter? trimmed with
    | none => false
    | some rest => if rest.length < text.length then parameters rest else false
termination_by text.length

def lower (text : List Char) : List Char := text.map Char.toLower

/-- The subtype before its last plus sign, and what follows the sign. -/
def splitSuffix (subtype : List Char) : List Char × Option (List Char) :=
  let after := (subtype.reverse.takeWhile (· != '+')).reverse
  let before := subtype.take (subtype.length - after.length - 1)
  if before.isEmpty then (subtype, none) else (before, some after)

def isJson (value : String) : Bool :=
  let text := value.toList
  let type := text.takeWhile (· != '/')
  let rest := (text.dropWhile (· != '/')).drop 1
  let subtype := rest.takeWhile fun c => c != ';' && c != ' '
  let (name, suffix) := splitSuffix (lower subtype)
  isToken type && isToken subtype && lower type == "application".toList &&
    (name == "json".toList || suffix == some "json".toList) &&
    parameters ((rest.drop subtype.length).drop 1)

/-- Whether a request says that its body is JSON. -/
def admits (r : Request) : Bool := (r.header? "content-type").any isJson

end Intake.Http.ContentType
