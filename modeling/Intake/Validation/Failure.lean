import Intake.Classification
import Intake.Limits

/-! # Failures of validation

A failure is a cause and the path that leads to it through data and schema. Its text repeats the
path from outside in; an object that fails inside says so, an element of an array is named by its
index behind the field.
-/

namespace Intake

/-- A step into data. -/
inductive DataStep where
  | field (name : String)
  | index (i : Nat)
deriving DecidableEq

inductive Cause where
  | notObject
  | missing (name : String)
  | unknown (name : String)
  | mismatch (expected : Kind) (why : Mismatch)
  | limit (broken : Limit)
deriving DecidableEq

structure Failure where
  path : List DataStep
  cause : Cause
deriving DecidableEq

namespace Cause

/-- Whether the cause lies in an object as a whole and not in a single value. -/
def ofObject : Cause → Bool
  | notObject => true
  | missing _ => true
  | unknown _ => true
  | mismatch _ _ => false
  | limit _ => false

def message : Cause → String
  | notObject => "data must be an object"
  | missing name => "required field '" ++ name ++ "' is missing"
  | unknown name => "unknown field '" ++ name ++ "' is not declared in schema"
  | mismatch _ why => why.message
  | limit broken => broken.message

def code : Cause → String
  | notObject => "NOT_AN_OBJECT"
  | missing _ => "MISSING_REQUIRED_FIELD"
  | unknown _ => "UNKNOWN_FIELD"
  | mismatch _ _ => "TYPE_MISMATCH"
  | limit _ => "CONSTRAINT_VIOLATION"

/-- The field that an object as a whole lacks or should not have. -/
def field? : Cause → Option String
  | missing name => some name
  | unknown name => some name
  | _ => none

end Cause

namespace Failure

def within (step : DataStep) (f : Failure) : Failure := { f with path := step :: f.path }

/-- Where the text of a failure stands: before an object's fields, right behind a field, or behind
an index. -/
inductive Position where
  | object
  | field (name : String)
  | element

def textFrom (position : Position) (cause : Cause) : List DataStep → String
  | [] =>
    match position with
    | .object => cause.message
    | .field name =>
      if cause.ofObject then "object field '" ++ name ++ "' validation failed: " ++ cause.message
      else "field '" ++ name ++ "' " ++ cause.message
    | .element => if cause.ofObject then "validation failed: " ++ cause.message else cause.message
  | .field inner :: rest =>
    match position with
    | .object => textFrom (.field inner) cause rest
    | .field name =>
      "object field '" ++ name ++ "' validation failed: " ++ textFrom (.field inner) cause rest
    | .element => "validation failed: " ++ textFrom (.field inner) cause rest
  | .index i :: rest =>
    let inner := "[" ++ Limit.numeral i ++ "] " ++ textFrom .element cause rest
    match position with
    | .object => inner
    | .field name => "field '" ++ name ++ "'" ++ inner
    | .element => inner

def message (f : Failure) : String := textFrom .object f.cause f.path

/-- Failures are told apart by where the path goes behind the first field. -/
def code (f : Failure) : String :=
  match f.path with
  | [] => f.cause.code
  | [_] => if f.cause.ofObject then "NESTED_VALIDATION_FAILURE" else f.cause.code
  | _ :: .field _ :: _ => "NESTED_VALIDATION_FAILURE"
  | _ :: .index _ :: _ => "ARRAY_ELEMENT_FAILURE"

/-- The outermost field of a failure. -/
def field? (f : Failure) : Option String :=
  match f.path with
  | .field name :: _ => some name
  | _ => f.cause.field?

end Failure

end Intake
