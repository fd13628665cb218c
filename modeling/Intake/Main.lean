import Std.Time.DateTime.Timestamp
import Intake.Command

/-! # The command line

The part of the real disk that a command may touch is copied first; the command works on the copy,
and what changed is carried over. A server takes its requests from standard input, one a line:
method, target and body between blanks.
-/

namespace Intake.Main

def usage : String :=
  "usage: intake serve [--config PATH] [--port PORT]\n" ++
    "       intake check-schema --schema PATH\n" ++
    "       intake validate --schema PATH --data PATH [--strict]"

def written (p : Place) : String := "/" ++ "/".intercalate p

/-- Copies the entry at a place, if there is one. -/
def copyEntry (d : Disk) (p : Place) : IO Disk := do
  try
    if ← (← IO.FS.realPath (written p)).isDir then return d.set p .folder
    match String.fromUTF8? (← IO.FS.readBinFile (written p)) with
    | some s => return d.set p (.file (.text s))
    | none => return d.set p (.file .binary)
  catch _ => return d

/-- Copies what lies along a path and at its end. -/
def copyAlong (d : Disk) (path : String) : IO (Disk × Place) := do
  let mut d := d
  let mut p := d.start path
  for part in Disk.parts path do
    p := if part = ".." then p.dropLast else p ++ [part]
    if p ≠ [] then d ← copyEntry d p
  return (d, p)

/-- Copies a folder with the files in it. -/
def copyFolder (d : Disk) (path : String) : IO Disk := do
  let (copied, p) ← copyAlong d path
  let mut d := copied
  try
    for entry in ← (← IO.FS.realPath (written p)).readDir do
      d ← copyEntry d (p ++ [entry.fileName])
    return d
  catch _ => return d

/-- The part of the disk that a command may touch. -/
def copyFor (c : Command) : IO Disk := do
  let here := (← IO.currentDir).toString
  let mut d := (← copyAlong { here := Disk.parts here } here).1
  for path in c.files do
    d := (← copyAlong d path).1
  match c.dataDir? d with
  | none => return d
  | some root =>
    for kind in [RecordKind.product, RecordKind.lead] do
      d ← copyFolder d (Files.folderPath kind root)
    return d

/-- Carries the changes of a copy over to the disk. -/
def carryOver (old new : Disk) : IO Unit := do
  for (p, entry) in new.entries do
    if old.find? p ≠ some entry then
      match entry with
      | .folder => IO.FS.createDirAll (written p)
      | .file (.text s) =>
        IO.FS.writeFile (written p ++ ".new") s
        IO.FS.rename (written p ++ ".new") (written p)
      | .file .binary => pure ()
  for (p, entry) in old.entries do
    if new.find? p = none ∧ entry ≠ .folder then IO.FS.removeFile (written p)

def now : IO Instant := do
  let nanoseconds := (← Std.Time.Timestamp.now).toNanosecondsSinceUnixEpoch.val
  return ⟨nanoseconds / 1000000000, (nanoseconds % 1000000000).toNat⟩

/-- Sixteen random bytes as hexadecimal digits, marked as an id of that kind. -/
def freshId : IO String := do
  let bytes := (← IO.getRandomBytes 16).toList.map UInt8.toNat
  let marked := (bytes.modify 6 fun b => b % 16 + 64).modify 8 fun b => b % 64 + 128
  return String.ofList (marked.flatMap fun b => Text.padded 2 (Text.hexadecimal b))

/-- The request on a line. -/
def request (line : String) : Http.Request :=
  let words := line.toList.splitOn ' '
  let word (i : Nat) : String := String.ofList (words.getD i [])
  { method := word 0
    target := word 1
    headers := [("content-type", "application/json")]
    body := String.ofList ([' '].intercalate (words.drop 2)) }

def diskOf (s : Service) : Disk := (s.store.backing?.map Backing.disk).getD {}

/-- Answers requests until the input ends. -/
partial def answer (server : Http.Server) (service : Service) : IO Unit := do
  let line ← (← IO.getStdin).getLine
  if line.isEmpty then return
  let moment : Http.Moment := ⟨← freshId, ← now⟩
  let ran := Task.run (Http.exchange server moment (request line.trimAsciiEnd.toString)) service
  carryOver (diskOf service) (diskOf ran.service)
  IO.println (String.ofList (Text.decimal ran.result.status) ++ " " ++ ran.result.body)
  (← IO.getStdout).flush
  answer server ran.service

def report (r : Report) : IO UInt32 := do
  IO.print r.output
  unless r.complaint.isEmpty do IO.eprintln r.complaint
  return r.exitCode.toUInt32

def run (c : Command) : IO UInt32 := do
  let old ← copyFor c
  let (outcome, new) := c.run old
  carryOver old new
  match outcome with
  | .error e => report (.ofError e)
  | .ok (.report data) => report (.ofData data)
  | .ok (.listening l) =>
    IO.eprintln ("ready for " ++ l.address)
    answer l.server l.service
    return 0

end Intake.Main

def main (args : List String) : IO UInt32 := do
  match Intake.Command.ofArguments args with
  | .ok c => Intake.Main.run c
  | .error u =>
    match u with
    | .help => IO.println Intake.Main.usage
    | .version => IO.println ("intake " ++ ({} : Intake.Http.Server).version)
    | .wrong => IO.eprintln Intake.Main.usage
    return u.exitCode.toUInt32
