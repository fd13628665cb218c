import Intake.Json.Record
import Intake.Json.Writer
import Intake.Paging
import Intake.Pattern
import Intake.Validation

/-! # Settings

The settings of a server are one record whose fields all have defaults. `Settings.read` reads and
checks them; the first setting that cannot be used is the one that is reported.
-/

namespace Intake

inductive LogFormat where
  | json
  | pretty
deriving DecidableEq

def LogFormat.name : LogFormat → String
  | json => "json"
  | pretty => "pretty"

/-- Where a server listens and whom it answers across origins. -/
structure HttpSettings where
  host : String := "0.0.0.0"
  port : Nat := 8080
  corsOrigins : List String := []
deriving DecidableEq

structure Settings where
  /-- Without a folder the records live in memory only. -/
  dataDir? : Option String := none
  host : String := "0.0.0.0"
  port : Nat := 8080
  corsOrigins : List String := []
  logLevel : String := "info"
  logFormat : LogFormat := .json
  defaultPageLimit : Nat := 10
  maxPageLimit : Nat := 100
  rejectUnknown : Bool := false
deriving DecidableEq

inductive SettingsError where
  | unreadable (fault : Json.Fault)
  | hostEmpty
  | portZero
  | pageLimitZero
  | pageLimitsCrossed (greatest standard : Nat)
  | logLevelUnknown (level : String)
  | dataDirEmpty
deriving DecidableEq

namespace SettingsError

def message : SettingsError → String
  | unreadable fault => "invalid config JSON: " ++ fault.message
  | hostEmpty => "host must not be empty"
  | portZero => "port must be > 0"
  | pageLimitZero => "default_page_limit must be > 0"
  | pageLimitsCrossed greatest standard =>
    "max_page_limit (" ++ Limit.numeral greatest ++ ") must not be below default_page_limit (" ++
      Limit.numeral standard ++ ")"
  | logLevelUnknown level => "invalid log_level '" ++ level ++ "': invalid filter directive"
  | dataDirEmpty => "data_dir must not be empty when set"

end SettingsError

namespace HttpSettings

def fields : List Json.Field :=
  [.optional "host" .text (.str "0.0.0.0"), .optional "port" (.natural 65536) (.int 8080),
    .optional "cors_origins" .texts (.arr [])]

def ofRow (row : Json.Row) : HttpSettings :=
  ⟨row.text "host", row.natural "port", row.texts "cors_origins"⟩

def read (text : String) : Except Json.Fault HttpSettings :=
  (Json.readRow fields false text.toList).map ofRow

def toJson (s : HttpSettings) : Json :=
  .obj [("host", .str s.host), ("port", .int s.port),
    ("cors_origins", .arr (s.corsOrigins.map .str))]

/-- The address in the form in which it is read again when the server starts. -/
def address (s : HttpSettings) : String := s.host ++ ":" ++ Limit.numeral s.port

end HttpSettings

namespace LogFilter

/-- A directive is a level, or a target or span or two of them with a level or without one. -/
def directive : String :=
  "^(?i:trace|debug|info|warn|error|off|[0-5])$|" ++
    "^(?:[\\w:-]+|\\[[^\\]]*\\])(?:[\\w:-]+|\\[[^\\]]*\\])?" ++
    "(?:=(?i:trace|debug|info|warn|error|off|[0-5])?)?$"

/-- A filter is a list of directives between commas; empty places say nothing. -/
def isValid [Pattern.Engine] (filter : String) : Bool :=
  match Pattern.ofSource? directive with
  | none => false
  | some p =>
    (filter.toList.splitOn ',').all fun part => part.isEmpty || p.matchesIn (String.ofList part)

end LogFilter

namespace Settings

def fields : List Json.Field :=
  [.optional "data_dir" .optionalText .null, .optional "host" .text (.str "0.0.0.0"),
    .optional "port" (.natural 65536) (.int 8080), .optional "cors_origins" .texts (.arr []),
    .optional "log_level" .text (.str "info"),
    .optional "log_format" (.oneOf ["json", "pretty"]) (.str "json"),
    .optional "default_page_limit" (.natural (2 ^ 64)) (.int 10),
    .optional "max_page_limit" (.natural (2 ^ 64)) (.int 100),
    .optional "reject_unknown_fields" .flag (.bool false)]

def ofRow (row : Json.Row) : Settings where
  dataDir? := (row.get "data_dir").text?
  host := row.text "host"
  port := row.natural "port"
  corsOrigins := row.texts "cors_origins"
  logLevel := row.text "log_level"
  logFormat := if row.choice "log_format" = "pretty" then .pretty else .json
  defaultPageLimit := row.natural "default_page_limit"
  maxPageLimit := row.natural "max_page_limit"
  rejectUnknown := row.flag "reject_unknown_fields"

/-- Reports the first setting that cannot be used. -/
def check [Pattern.Engine] (s : Settings) : Except SettingsError Unit :=
  if Text.trim s.host.toList = [] then .error .hostEmpty
  else if s.port = 0 then .error .portZero
  else if s.defaultPageLimit = 0 then .error .pageLimitZero
  else if s.maxPageLimit < s.defaultPageLimit then
    .error (.pageLimitsCrossed s.maxPageLimit s.defaultPageLimit)
  else if !LogFilter.isValid s.logLevel then .error (.logLevelUnknown s.logLevel)
  else if s.dataDir? = some "" then .error .dataDirEmpty
  else .ok ()

def read [Pattern.Engine] (text : String) : Except SettingsError Settings :=
  match Json.readRow fields false text.toList with
  | .error fault => .error (.unreadable fault)
  | .ok row =>
    match (ofRow row).check with
    | .error e => .error e
    | .ok () => .ok (ofRow row)

def toJson (s : Settings) : Json :=
  .obj [("data_dir", (s.dataDir?.map Json.str).getD .null), ("host", .str s.host),
    ("port", .int s.port), ("cors_origins", .arr (s.corsOrigins.map .str)),
    ("log_level", .str s.logLevel), ("log_format", .str s.logFormat.name),
    ("default_page_limit", .int s.defaultPageLimit), ("max_page_limit", .int s.maxPageLimit),
    ("reject_unknown_fields", .bool s.rejectUnknown)]

/-- Where to listen, with a port that takes the place of the one in the settings. -/
def http (s : Settings) (port? : Option Nat) : HttpSettings :=
  ⟨s.host, port?.getD s.port, s.corsOrigins⟩

def pageLimits (s : Settings) : PageLimits := ⟨s.defaultPageLimit, s.maxPageLimit⟩

def rules (s : Settings) : Rules := ⟨s.rejectUnknown⟩

end Settings

end Intake
