import Intake.Command.Arguments
import Intake.Http.Address
import Intake.Http.Exchange
import Intake.Settings

/-! # Commands

A command reads its files from a disk and ends in a report or in a server that is ready to listen.
A definition is read strictly before the data that is checked against it is looked at.
-/

namespace Intake

/-- Why a command fails. -/
inductive CommandError where
  | settingsUnread (path : String) (cause : OsError)
  | settings (e : SettingsError)
  | fileUnread (path : String) (cause : OsError)
  | fileMalformed (path : String)
  | definition (e : DefinitionError)
  | data (f : Failure)
  | store (e : StorageError)
  | address (written : String)

namespace CommandError

def code : CommandError → String
  | settingsUnread _ _ => "CLI_CONFIG_ERROR"
  | settings _ => "CLI_CONFIG_ERROR"
  | fileUnread _ _ => "CLI_IO_ERROR"
  | fileMalformed _ => "CLI_IO_ERROR"
  | definition e => e.code
  | data f => f.code
  | store _ => "CLI_SERVE_FAILED"
  | address _ => "CLI_SERVE_FAILED"

def message : CommandError → String
  | settingsUnread path cause => "failed to read config " ++ path ++ ": " ++ cause.message
  | settings e => e.message
  | fileUnread path cause => "failed to read " ++ path ++ ": " ++ cause.message
  | fileMalformed path => "invalid JSON in " ++ path ++ ": " ++ Json.Fault.malformed.message
  | definition e => e.message
  | data f => "data validation failed: " ++ f.message
  | store e => "failed to open store: " ++ e.message
  | address written =>
    "HTTP server failed: invalid socket address '" ++ written ++
      "': invalid socket address syntax"

end CommandError

/-- A server with its service, and the address at which it is to listen. -/
structure Listening where
  address : String
  server : Http.Server
  service : Service

namespace Command

/-- What a command ends in, unless it fails. -/
inductive Outcome where
  | report (data : Json)
  | listening (l : Listening)

def readValue (d : Disk) (path : String) : Except CommandError Value :=
  match d.read path with
  | .error e => .error (.fileUnread path e)
  | .ok content =>
    match Value.read? content with
    | none => .error (.fileMalformed path)
    | some v => .ok v

variable [Pattern.Engine]

def readSchema (d : Disk) (path : String) : Except CommandError Schema :=
  match readValue d path with
  | .error e => .error e
  | .ok definition => (Schema.ofDefinition definition).mapError .definition

def readSettings (d : Disk) (path : String) : Except CommandError Settings :=
  match d.read path with
  | .error e => .error (.settingsUnread path e)
  | .ok content => (Settings.read content).mapError .settings

/-- The store that the settings ask for. -/
def openStore (d : Disk) (s : Settings) : Except CommandError Store × Disk :=
  match s.dataDir? with
  | none => (.ok {}, d)
  | some root =>
    let (opened, d) := Store.openAt root d
    (opened.mapError .store, d)

def serverOf (s : Settings) : Http.Server where
  policy := ⟨s.rules, s.pageLimits⟩
  origins := Http.Origins.ofList s.corsOrigins

def prepare (d : Disk) (s : Settings) (port? : Option Nat) : Except CommandError Listening × Disk :=
  match openStore d s with
  | (.error e, d) => (.error e, d)
  | (.ok store, d) =>
    let address := (s.http port?).address
    if Http.Address.isNumeric s.host then
      (.ok ⟨address, serverOf s, { store := store }⟩, d)
    else (.error (.address address), d)

/-- Carries a command out. Only `serve` may change the disk, by making folders for records. -/
def run (d : Disk) : Command → Except CommandError Outcome × Disk
  | .serve config port? =>
    match readSettings d config with
    | .error e => (.error e, d)
    | .ok s =>
      let (ready, d) := prepare d s port?
      (ready.map .listening, d)
  | .checkSchema schema =>
    ((readSchema d schema).map fun s =>
      .report (.obj [("valid", .bool true), ("fields", .int s.fields.length)]), d)
  | .validate schema data strict =>
    match readSchema d schema with
    | .error e => (.error e, d)
    | .ok s =>
      match readValue d data with
      | .error e => (.error e, d)
      | .ok v =>
        (match s.validate ⟨strict⟩ v with
          | .error f => .error (.data f)
          | .ok () => .ok (.report (.obj [("valid", .bool true)])), d)

/-- The files that a command reads. -/
def files : Command → List String
  | serve config _ => [config]
  | checkSchema schema => [schema]
  | validate schema data _ => [schema, data]

/-- The folder in which a command keeps records, once its files can be read. -/
def dataDir? (d : Disk) : Command → Option String
  | serve config _ =>
    match readSettings d config with
    | .ok s => s.dataDir?
    | .error _ => none
  | _ => none

end Command

/-- What a program leaves behind: its exit code and what it writes. -/
structure Report where
  exitCode : Nat
  output : String
  complaint : String := ""
deriving DecidableEq

namespace Report

def line (j : Json) : String := j.compact ++ "\n"

def ofData (data : Json) : Report :=
  ⟨0, line (.obj [("status", .str "ok"), ("data", data)]), ""⟩

/-- A failure is reported twice, for programs and for people. -/
def ofError (e : CommandError) : Report :=
  ⟨1, line (.obj [("status", .str "error"), ("code", .str e.code), ("message", .str e.message)]),
    e.code ++ ": " ++ e.message⟩

end Report

end Intake
