import Intake.Disk
import Intake.Record

/-! # Errors of a store

A record is not there, an id is taken, the disk fails, or a record file cannot be read as a record.
Only the last is fatal.
-/

namespace Intake

/-- What was being done when the disk failed. -/
inductive DiskTask where
  | create
  | read
  | write
  | rename
  | remove
deriving DecidableEq

def DiskTask.message : DiskTask → String
  | create => "failed to create"
  | read => "failed to read"
  | write => "failed to write"
  | rename => "failed to rename"
  | remove => "failed to remove"

inductive StorageError where
  | notFound (kind : RecordKind) (id : String)
  | duplicate (id : String)
  | disk (task : DiskTask) (path : String) (cause : OsError)
  | corrupt (path : String) (fault : Json.Fault)
deriving DecidableEq

namespace StorageError

def notFoundMessage : RecordKind → String
  | .product => "product not found"
  | .lead => "lead not found"

def notFoundCode : RecordKind → String
  | .product => "PRODUCT_NOT_FOUND"
  | .lead => "LEAD_NOT_FOUND"

def message : StorageError → String
  | notFound kind _ => notFoundMessage kind
  | duplicate id => "record '" ++ id ++ "' already exists"
  | disk task path cause => task.message ++ " " ++ path ++ ": " ++ cause.message
  | corrupt path fault => "corrupt record file " ++ path ++ ": " ++ fault.message

def code : StorageError → String
  | notFound kind _ => notFoundCode kind
  | duplicate _ => "DUPLICATE_RECORD"
  | disk _ _ _ => "STORAGE_IO_ERROR"
  | corrupt _ _ => "DATA_CORRUPTION"

def isNotFound : StorageError → Bool
  | notFound _ _ => true
  | _ => false

def isFatal : StorageError → Bool
  | corrupt _ _ => true
  | _ => false

end StorageError

end Intake
