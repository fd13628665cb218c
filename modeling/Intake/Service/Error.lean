import Intake.Schema.Definition
import Intake.Store.Error
import Intake.Validation.Failure

/-! # Errors of the service

An operation fails because of what it was given, because a record is not there, or because the store
failed. Codes are those of the cause.
-/

namespace Intake

inductive ServiceError where
  | invalidSchema (cause : DefinitionError)
  | invalidData (cause : Failure)
  | notFound (kind : RecordKind) (id : String)
  | storage (cause : StorageError)
deriving DecidableEq

/-- How a failure is to be reported. -/
inductive ErrorCategory where
  | invalid
  | notFound
  | internal
deriving DecidableEq

def ErrorCategory.name : ErrorCategory → String
  | invalid => "invalid"
  | notFound => "not_found"
  | internal => "internal"

namespace ServiceError

def ofStorage : StorageError → ServiceError
  | .notFound kind id => notFound kind id
  | cause => storage cause

def message : ServiceError → String
  | invalidSchema cause => cause.message
  | invalidData cause => "data validation failed: " ++ cause.message
  | notFound kind _ => StorageError.notFoundMessage kind
  | storage cause => "storage failure: " ++ cause.message

def code : ServiceError → String
  | invalidSchema cause => cause.code
  | invalidData cause => cause.code
  | notFound kind _ => StorageError.notFoundCode kind
  | storage cause => cause.code

def category : ServiceError → ErrorCategory
  | invalidSchema _ => .invalid
  | invalidData _ => .invalid
  | notFound _ _ => .notFound
  | storage _ => .internal

end ServiceError

end Intake
