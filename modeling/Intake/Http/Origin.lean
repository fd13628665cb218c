import Intake.Http.Message

/-! # Origins

Which other origins may read the answers: any, or those of a list. A listed origin is told that it
may; the others are told nothing.
-/

namespace Intake.Http

inductive Origins where
  | any
  | only (allowed : List String)

namespace Origins

/-- Whether a text can be the value of a header. -/
def isHeaderValue (text : String) : Bool :=
  text.toList.all fun c => (0x20 ≤ c.toNat && c.toNat != 0x7F) || c == '\t'

/-- An empty list admits any origin. Entries that can be in no header are left out. -/
def ofList (origins : List String) : Origins :=
  if origins.isEmpty then any else only (origins.filter isHeaderValue)

/-- The origin that a response names. -/
def allowed? (o : Origins) (request : Request) : Option String :=
  match o with
  | any => some "*"
  | only allowed => (request.header? "origin").filter allowed.contains

def mark (o : Origins) (request : Request) (r : Response) : Response :=
  match o.allowed? request with
  | some origin => r.withHeader "access-control-allow-origin" origin
  | none => r

/-- The answer to a question in advance, which every route gives alike. -/
def preflight (o : Origins) (request : Request) : Response :=
  o.mark request (((Response.empty 200).withHeader "access-control-allow-methods" "*").withHeader
    "access-control-allow-headers" "*")

end Origins

end Intake.Http
