import Intake.Json

/-! # A disk

A disk is a tree of folders and files, held as the list of its entries with their paths from the
root. Operations take paths as they are written, walk them folder by folder from the root or from
where the program works, and fail as an operating system does.
-/

namespace Intake

inductive OsError where
  | notFound
  | exists
  | notFolder
  | isFolder
  | nameTooLong
  | nulInName
  | notText
deriving DecidableEq, Repr

def OsError.message : OsError → String
  | notFound => "No such file or directory (os error 2)"
  | .exists => "File exists (os error 17)"
  | notFolder => "Not a directory (os error 20)"
  | isFolder => "Is a directory (os error 21)"
  | nameTooLong => "File name too long (os error 36)"
  | nulInName => "file name contained an unexpected NUL byte"
  | notText => "stream did not contain valid UTF-8"

/-- What a file holds: a text, or bytes that are none. -/
inductive Content where
  | text (s : String)
  | binary
deriving DecidableEq

inductive Entry where
  | folder
  | file (content : Content)
deriving DecidableEq

/-- The names that lead from the root to an entry. -/
abbrev Place := List String

structure Disk where
  entries : List (Place × Entry) := []
  /-- Where the paths begin that do not begin at the root. -/
  here : Place := []
deriving DecidableEq

namespace Disk

def empty : Disk := {}

/-- The root is a folder without an entry. -/
def find? (d : Disk) (p : Place) : Option Entry :=
  if p = [] then some .folder else (d.entries.find? fun e => e.1 = p).map Prod.snd

/-- Puts an entry at a place, over the one that is there. -/
def set (d : Disk) (p : Place) (entry : Entry) : Disk :=
  if d.entries.any fun e => e.1 = p then
    { d with entries := d.entries.map fun e => if e.1 = p then (p, entry) else e }
  else { d with entries := d.entries ++ [(p, entry)] }

def erase (d : Disk) (p : Place) : Disk := { d with entries := d.entries.filter fun e => e.1 ≠ p }

/-- Names longer than this many bytes are refused. -/
def longestName : Nat := 255

/-- Whole paths must be shorter than this many bytes. -/
def pathLimit : Nat := 4096

/-- The parts of a written path that say something. -/
def parts (path : String) : List String :=
  (path.toList.splitOn '/').filterMap fun part =>
    if part = [] ∨ part = ['.'] then none else some (String.ofList part)

/-- Goes into a folder by one part of a path. -/
def enter (d : Disk) (here : Place) (part : String) : Except OsError Place :=
  if part = ".." then .ok here.dropLast
  else if longestName < part.utf8ByteSize then .error .nameTooLong
  else
    match d.find? (here ++ [part]) with
    | none => .error .notFound
    | some .folder => .ok (here ++ [part])
    | some (.file _) => .error .notFolder

/-- Walks along the parts of a path; the last of them need not exist. -/
def walk (d : Disk) (here : Place) : List String → Except OsError Place
  | [] => .ok here
  | [part] =>
    if part = ".." then .ok here.dropLast
    else if longestName < part.utf8ByteSize then .error .nameTooLong
    else .ok (here ++ [part])
  | part :: rest =>
    match d.enter here part with
    | .ok inside => d.walk inside rest
    | .error e => .error e

def start (d : Disk) (path : String) : Place :=
  if path.toList.head? = some '/' then [] else d.here

/-- Whether a path is written as that of a folder, with nothing or a point behind a slash. -/
def isFolderPath (path : String) : Bool :=
  let last? := (path.toList.splitOn '/').getLast?
  last? = some [] || last? = some ['.']

/-- The place that a written path means. -/
def locate (d : Disk) (path : String) : Except OsError Place :=
  if '\x00' ∈ path.toList then .error .nulInName
  else if path = "" then .error .notFound
  else if pathLimit ≤ path.utf8ByteSize then .error .nameTooLong
  else
    match d.walk (d.start path) (parts path) with
    | .error e => .error e
    | .ok p =>
      match d.find? p with
      | some (.file _) => if isFolderPath path then .error .notFolder else .ok p
      | _ => .ok p

def read (d : Disk) (path : String) : Except OsError String :=
  match d.locate path with
  | .error e => .error e
  | .ok p =>
    match d.find? p with
    | none => .error .notFound
    | some .folder => .error .isFolder
    | some (.file (.text s)) => .ok s
    | some (.file .binary) => .error .notText

/-- The names of the entries right inside a folder, in order. -/
def list (d : Disk) (path : String) : Except OsError (List String) :=
  match d.locate path with
  | .error e => .error e
  | .ok p =>
    match d.find? p with
    | none => .error .notFound
    | some (.file _) => .error .notFolder
    | some .folder =>
      .ok ((d.entries.filterMap fun e =>
        if e.1.dropLast = p then e.1.getLast? else none).mergeSort fun a b => a ≤ b)

def isFolder (d : Disk) (path : String) : Bool :=
  match d.locate path with
  | .error _ => false
  | .ok p => d.find? p = some .folder

def makeFolder (d : Disk) (path : String) : Except OsError Disk :=
  match d.locate path with
  | .error e => .error e
  | .ok p =>
    match d.find? p with
    | none => .ok (d.set p .folder)
    | some _ => .error .exists

/-- Makes a folder with those around it. A folder that is there already is as good as made. -/
def makeFolders (d : Disk) (leading : String) (parts : List String) : Except OsError Unit × Disk :=
  let path := leading ++ "/".intercalate parts
  let last (d : Disk) : Except OsError Unit × Disk :=
    match d.makeFolder path with
    | .ok d => (.ok (), d)
    | .error e => if d.isFolder path then (.ok (), d) else (.error e, d)
  match parts with
  | [] => (.ok (), d)
  | part :: rest =>
    match d.makeFolder path with
    | .error .notFound =>
      match d.makeFolders leading (part :: rest).dropLast with
      | (.ok (), d) => last d
      | (.error e, d) => (.error e, d)
    | _ => last d
termination_by parts.length
decreasing_by simp

def makeFoldersAt (d : Disk) (path : String) : Except OsError Unit × Disk :=
  if '\x00' ∈ path.toList then (.error .nulInName, d)
  else d.makeFolders (if path.toList.head? = some '/' then "/" else "") (parts path)

/-- A change to the files of a disk. -/
inductive Step where
  | write (path content : String)
  | rename (source target : String)
  | remove (path : String)
deriving DecidableEq

def write (d : Disk) (path content : String) : Except OsError Disk :=
  match d.locate path with
  | .error e => .error e
  | .ok p =>
    match d.find? p with
    | some .folder => .error .isFolder
    | _ => .ok (d.set p (.file (.text content)))

/-- A file takes the place of the one that is there. -/
def rename (d : Disk) (source target : String) : Except OsError Disk :=
  match d.locate source, d.locate target with
  | .error e, _ => .error e
  | .ok _, .error e => .error e
  | .ok p, .ok q =>
    match d.find? p, d.find? q with
    | none, _ => .error .notFound
    | some .folder, _ => .error .isFolder
    | some (.file _), some .folder => .error .isFolder
    | some (.file content), _ => .ok ((d.erase p).set q (.file content))

def remove (d : Disk) (path : String) : Except OsError Disk :=
  match d.locate path with
  | .error e => .error e
  | .ok p =>
    match d.find? p with
    | none => .error .notFound
    | some .folder => .error .isFolder
    | some (.file _) => .ok (d.erase p)

/-- Carries a change out; one that fails changes nothing. -/
def perform (step : Step) (d : Disk) : Except OsError Unit × Disk :=
  let outcome := match step with
    | .write path content => d.write path content
    | .rename source target => d.rename source target
    | .remove path => d.remove path
  match outcome with
  | .ok d => (.ok (), d)
  | .error e => (.error e, d)

/-- All files that hold texts, below a place and named from there. -/
def filesBelow (d : Disk) (top : Place) : List (String × String) :=
  d.entries.filterMap fun (p, entry) =>
    match entry with
    | .file (.text s) =>
      if top.isPrefixOf p then some ("/".intercalate (p.drop top.length), s) else none
    | _ => none

/-- Puts a file at a place, with the folders that lead to it. -/
def withFile (d : Disk) (p : Place) (content : Content) : Disk :=
  (folders [] p.dropLast d).set p (.file content)
where
  folders (here : Place) : List String → Disk → Disk
    | [], d => d
    | name :: rest, d => folders (here ++ [name]) rest (d.set (here ++ [name]) .folder)

/-- Puts a folder at a place, with the folders that lead to it. -/
def withFolder (d : Disk) (p : Place) : Disk := withFile.folders [] p d

/-- Takes an entry away with everything below it. -/
def without (d : Disk) (p : Place) : Disk :=
  { d with entries := d.entries.filter fun e => !p.isPrefixOf e.1 }

end Disk
end Intake
