import Intake.Text.Digits

/-! # Commands and their arguments

A command is named first and its options follow in any order, each once at most. The operand of an
option is attached with an equals sign or is the next argument; only an attached one may begin
with a hyphen.
-/

namespace Intake

/-- What the program is asked to do. -/
inductive Command where
  | serve (config : String) (port? : Option Nat)
  | checkSchema (schema : String)
  | validate (schema data : String) (strict : Bool)
deriving DecidableEq

/-- Why no command comes of the arguments. -/
inductive Usage where
  | help
  | version
  | wrong
deriving DecidableEq

def Usage.exitCode : Usage → Nat
  | help => 0
  | version => 0
  | wrong => 2

namespace Command

inductive Verb where
  | serve
  | checkSchema
  | validate
deriving DecidableEq

/-- What an option takes. -/
inductive Operand where
  | nothing
  | path
  | port
deriving DecidableEq

namespace Verb

def all : List Verb := [serve, checkSchema, validate]

def name : Verb → String
  | serve => "serve"
  | checkSchema => "check-schema"
  | validate => "validate"

def ofName? (s : String) : Option Verb := all.find? fun v => v.name = s

def options : Verb → List (String × Operand)
  | serve => [("config", .path), ("port", .port)]
  | checkSchema => [("schema", .path)]
  | validate => [("schema", .path), ("data", .path), ("strict", .nothing)]

end Verb

/-- A port may have a sign and zeros in front. -/
def port? (operand : String) : Option Nat :=
  match Text.integer? operand.toList with
  | some (.ofNat n) => if n < 65536 then some n else none
  | _ => none

def Operand.admits : Operand → String → Bool
  | nothing, _ => false
  | path, operand => operand ≠ ""
  | port, operand => (port? operand).isSome

/-- The form of an argument. -/
inductive Argument where
  | divider
  | long (name : String) (attached? : Option String)
  | short (letter : Char)
  | plain
deriving DecidableEq

/-- A hyphen alone is a plain argument. -/
def Argument.ofText (text : String) : Argument :=
  match text.toList with
  | ['-', '-'] => divider
  | '-' :: '-' :: rest =>
    long (String.ofList (rest.takeWhile (· ≠ '=')))
      (if '=' ∈ rest then some (String.ofList ((rest.dropWhile (· ≠ '=')).drop 1)) else none)
  | '-' :: letter :: _ => short letter
  | _ => plain

/-- The options that have been read so far, with their operands. -/
abbrev Given := List (String × String)

/-- Reads the options of a command. What cannot be read ends the reading, and so does the question
for help. -/
def readOptions (v : Verb) (given : Given) (arguments : List String) : Except Usage Given :=
  match arguments with
  | [] => .ok given
  | text :: rest =>
    match Argument.ofText text with
    | .plain => .error .wrong
    | .divider => if rest = [] then .ok given else .error .wrong
    | .short letter => .error (if letter = 'h' then .help else .wrong)
    | .long name attached? =>
      if name = "help" ∧ attached? = none then .error .help
      else if (given.lookup name).isSome then .error .wrong
      else
        match v.options.lookup name, attached?, rest with
        | none, _, _ => .error .wrong
        | some .nothing, none, rest => readOptions v (given ++ [(name, "")]) rest
        | some operand, some s, rest =>
          if operand.admits s then readOptions v (given ++ [(name, s)]) rest else .error .wrong
        | some _, none, [] => .error .wrong
        | some operand, none, s :: rest =>
          if Argument.ofText s = .plain ∧ operand.admits s then
            readOptions v (given ++ [(name, s)]) rest
          else .error .wrong
termination_by arguments.length

/-- Where the settings are looked for unless an option says it. -/
def standardConfig : String := "./leadschema.json"

/-- A command misses no option but those of `serve` and `strict`. -/
def ofGiven (v : Verb) (given : Given) : Except Usage Command :=
  match v with
  | .serve =>
    .ok (serve ((given.lookup "config").getD standardConfig)
      ((given.lookup "port").bind port?))
  | .checkSchema =>
    match given.lookup "schema" with
    | some schema => .ok (checkSchema schema)
    | none => .error .wrong
  | .validate =>
    match given.lookup "schema", given.lookup "data" with
    | some schema, some data => .ok (validate schema data (given.lookup "strict").isSome)
    | _, _ => .error .wrong

/-- Help is on the program or on one of its commands. -/
def helpOn : List String → Usage
  | [] => .help
  | [name] => if name = "help" ∨ (Verb.ofName? name).isSome then .help else .wrong
  | _ => .wrong

def ofArguments : List String → Except Usage Command
  | [] => .error .wrong
  | text :: rest =>
    match Argument.ofText text with
    | .plain =>
      if text = "help" then .error (helpOn rest)
      else
        match Verb.ofName? text with
        | none => .error .wrong
        | some v =>
          match readOptions v [] rest with
          | .error u => .error u
          | .ok given => ofGiven v given
    | .long "help" none => .error .help
    | .long "version" none => .error .version
    | .short 'h' => .error .help
    | .short 'V' => .error .version
    | _ => .error .wrong

end Command

end Intake
