import Intake.Store.Error

/-! # Record files

A record lies in a file named for its id, in the folder of its kind. It is written to a temporary
file first, which then takes its place, so that the file holds the whole old record or the whole
new one. Loading reads every file with the extension `json` and puts the records in order.
-/

namespace Intake

/-- How changes reach the disk. -/
abbrev Device := Disk.Step → Disk → Except OsError Unit × Disk

/-- The disk that a store writes through to. -/
structure Backing where
  root : String
  disk : Disk
  device : Device := Disk.perform

namespace Files

/-- Appends to a path; what begins with a slash is a path of its own. -/
def join (base path : String) : String :=
  if path.toList.head? = some '/' ∨ base = "" then path
  else if base.toList.getLast? = some '/' then base ++ path
  else base ++ "/" ++ path

def folderPath (kind : RecordKind) (root : String) : String := join root kind.folder

def recordPath (kind : RecordKind) (root id : String) : String :=
  join (folderPath kind root) (id ++ ".json")

/-- Cuts a file name at its last point, unless there is nothing before it. -/
def splitName (name : List Char) : List Char × Option (List Char) :=
  let after := (name.reverse.takeWhile (· ≠ '.')).reverse
  let before := name.take (name.length - after.length - 1)
  if before = [] then (name, none) else (before, some after)

/-- The temporary file of a record file: another extension in the same folder. -/
def temporaryPath (path : String) : String :=
  let name := (path.toList.reverse.takeWhile (· ≠ '/')).reverse
  let front := path.toList.take (path.length - name.length)
  String.ofList (front ++ (splitName name).1 ++ ".json.tmp".toList)

def isRecordName (name : String) : Bool := (splitName name.toList).2 = some "json".toList

variable {α : Type} [Record α]

/-- The changes that put a record on disk. -/
def saveSteps (root : String) (r : α) : Disk.Step × Disk.Step :=
  let path := recordPath (Record.kind α) root (Record.id r)
  (.write (temporaryPath path) (Record.fileText r), .rename (temporaryPath path) path)

def save (b : Backing) (r : α) : Except StorageError Unit × Backing :=
  let path := recordPath (Record.kind α) b.root (Record.id r)
  let (write, rename) := saveSteps b.root r
  match b.device write b.disk with
  | (.error e, disk) => (.error (.disk .write (temporaryPath path) e), { b with disk := disk })
  | (.ok (), disk) =>
    match b.device rename disk with
    | (.error e, disk) => (.error (.disk .rename path e), { b with disk := disk })
    | (.ok (), disk) => (.ok (), { b with disk := disk })

/-- A file that is gone already counts as removed. -/
def delete (kind : RecordKind) (b : Backing) (id : String) : Except StorageError Unit × Backing :=
  let path := recordPath kind b.root id
  match b.device (.remove path) b.disk with
  | (.ok (), disk) => (.ok (), { b with disk := disk })
  | (.error .notFound, disk) => (.ok (), { b with disk := disk })
  | (.error e, disk) => (.error (.disk .remove path e), { b with disk := disk })

def readRecord (d : Disk) (path : String) : Except StorageError α :=
  match d.read path with
  | .error e => .error (.disk .read path e)
  | .ok content =>
    match Record.read content with
    | .error fault => .error (.corrupt path fault)
    | .ok r => .ok r

def readRecords (d : Disk) (folder : String) : List String → Except StorageError (List α)
  | [] => .ok []
  | name :: rest =>
    if isRecordName name then
      match readRecord d (join folder name), readRecords d folder rest with
      | .error e, _ => .error e
      | .ok _, .error e => .error e
      | .ok r, .ok rs => .ok (r :: rs)
    else readRecords d folder rest

def sorted (rows : List α) : List α := rows.mergeSort Record.precedes

variable (α) in
/-- Loads the records of a folder, which is made if it is not there. -/
def load (d : Disk) (root : String) : Except StorageError (List α) × Disk :=
  let folder := folderPath (Record.kind α) root
  match d.makeFoldersAt folder with
  | (.error e, d) => (.error (.disk .create folder e), d)
  | (.ok (), d) =>
    match d.list folder with
    | .error e => (.error (.disk .read folder e), d)
    | .ok names => ((readRecords d folder names).map sorted, d)

end Files

end Intake
