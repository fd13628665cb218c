import Intake.Http.Payload
import Intake.Json.Writer
import Intake.Service.Error

/-! # Requests and responses over HTTP

Names of headers are compared without case. A response is JSON, plain text or empty.
-/

namespace Intake.Http

structure Request where
  method : String
  target : String
  headers : List (String × String)
  body : Payload

structure Response where
  status : Nat
  headers : List (String × String)
  body : String
deriving DecidableEq

def Request.header? (r : Request) (name : String) : Option String :=
  (r.headers.find? fun h => h.1.toLower = name).map Prod.snd

namespace Response

def empty (status : Nat) : Response := ⟨status, [], ""⟩

def json (status : Nat) (body : Json) : Response :=
  ⟨status, [("content-type", "application/json")], body.compact⟩

def plain (status : Nat) (text : String) : Response :=
  ⟨status, [("content-type", "text/plain; charset=utf-8")], text⟩

def error (status : Nat) (message : String) : Response :=
  json status (.obj [("error", .str message)])

def statusOf : ErrorCategory → Nat
  | .invalid => 400
  | .notFound => 404
  | .internal => 500

/-- What went wrong inside stays in the log. -/
def ofError (e : ServiceError) : Response :=
  match e.category with
  | .internal => error 500 "internal server error"
  | category => error (statusOf category) e.message

def withHeader (r : Response) (name value : String) : Response :=
  { r with headers := r.headers ++ [(name, value)] }

end Response

end Intake.Http
