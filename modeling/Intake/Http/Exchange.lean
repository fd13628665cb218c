import Intake.Http.ContentType
import Intake.Http.Origin
import Intake.Http.Route
import Intake.Service

/-! # Exchanges

An exchange turns a request into a task that ends in a response. The task is that of the operation
which the route and the method name; a request that cannot be decoded never gets so far.
-/

namespace Intake.Http

/-- Why a body is not taken. -/
inductive BodyFault where
  | contentType
  | tooLong
  | unreadable (fault : Json.Fault)
deriving DecidableEq

namespace BodyFault

def reason : BodyFault → String
  | contentType => "Expected request with \x60Content-Type: application/json\x60"
  | tooLong => "Failed to buffer the request body: length limit exceeded"
  | unreadable .malformed =>
    "Failed to parse the request body as JSON: " ++ Json.Fault.malformed.message
  | unreadable .unfit =>
    "Failed to deserialize the JSON body into the target type: " ++ Json.Fault.unfit.message

def response (f : BodyFault) : Response := .error 400 ("invalid JSON: " ++ f.reason)

end BodyFault

/-- What a server has been told. -/
structure Server where
  policy : Policy := {}
  origins : Origins := .any
  version : String := "0.1.0"

/-- What an operation takes from the world: an id that is not in use, and the time. -/
structure Moment where
  freshId : String
  now : Instant

/-- The body of a request whose headers announce JSON, unless it is too long. -/
def readBody {α : Type} [Body α] (r : Request) : Except BodyFault α :=
  if !ContentType.admits r then .error .contentType
  else if Payload.greatestLength < r.body.bytes.length then .error .tooLong
  else
    match Body.read true r.body.text with
    | .ok a => .ok a
    | .error fault => .error (.unreadable fault)

def withBody {α : Type} [Body α] (r : Request) (next : α → Task Response) : Task Response :=
  match readBody r with
  | .ok a => next a
  | .error fault => pure fault.response

/-- The id in a path must be a text once its escapes are resolved. -/
def withId (raw : String) (next : String → Task Response) : Task Response :=
  match Target.decode? raw with
  | some id => next id
  | none => pure (.plain 400 "Invalid URL: Invalid UTF-8 in \x60id\x60")

/-- Runs an operation and answers with what it gives or with its error. -/
def answer {α : Type} (op : Operation α) (respond : α → Response) : Task Response := do
  match ← op.run with
  | .ok a => pure (respond a)
  | .error e => pure (.ofError e)

def ok (body : Json) : Response := .json 200 body

def created (body : Json) : Response := .json 201 body

def deleted : Response := .empty 204

def healthJson (version : String) : Json :=
  .obj [("status", .str "ok"), ("version", .str version)]

open Operation in
/-- The task of a route under a method that it takes; `head` is answered as `get`. -/
def dispatch [Pattern.Engine] (server : Server) (m : Moment) (r : Request) (route : Route)
    (method : Method) : Task Response :=
  let limits := server.policy.limits
  let rules := server.policy.rules
  let query := ListQuery.ofParams (Target.query r.target)
  match route, method with
  | .health, _ => pure (ok (healthJson server.version))
  | .metrics, _ => .read fun counters => pure (ok (Reply.counters counters))
  | .products, .post =>
    withBody r fun body => answer (createProduct m.freshId m.now body) (created ∘ Reply.product)
  | .products, _ => answer (listProducts limits query) (ok ∘ Reply.products)
  | .product raw, .put =>
    withId raw fun id => withBody r fun body =>
      answer (updateProduct id m.now body) (ok ∘ Reply.product)
  | .product raw, .delete => withId raw fun id => answer (deleteProduct id) fun _ => deleted
  | .product raw, _ => withId raw fun id => answer (getProduct id) (ok ∘ Reply.product)
  | .validate raw, _ =>
    withId raw fun id => withBody r fun body : DataRequest =>
      answer (validateData rules id body.data) fun _ => ok Reply.valid
  | .leads, .post =>
    withBody r fun body => answer (createLead rules m.freshId m.now body) (created ∘ Reply.lead)
  | .leads, _ => answer (listLeads limits query) (ok ∘ Reply.leads)
  | .lead raw, .put =>
    withId raw fun id => withBody r fun body : DataRequest =>
      answer (updateLead rules id m.now body.data) (ok ∘ Reply.lead)
  | .lead raw, .delete => withId raw fun id => answer (deleteLead id) fun _ => deleted
  | .lead raw, _ => withId raw fun id => answer (getLead id) (ok ∘ Reply.lead)
  | .schemaCheck, _ =>
    withBody r fun body : SchemaRequest =>
      answer (checkSchema body.schema) fun _ => ok Reply.valid

/-- A method that the route does not take is refused with those that it takes, and so is the
question in advance, which is answered before the route is asked. -/
def refuse (server : Server) (r : Request) (route? : Option Route) (status : Nat) : Response :=
  let response :=
    if r.method = "OPTIONS" then server.origins.preflight r
    else server.origins.mark r (.empty status)
  match route? with
  | some route => response.withHeader "allow" route.allow
  | none => response

/-- The response to a request, by way of its task. -/
def exchange [Pattern.Engine] (server : Server) (m : Moment) (r : Request) : Task Response :=
  match Route.ofSegments? (Target.segments r.target) with
  | none => pure (refuse server r none 404)
  | some route =>
    match Method.ofName? r.method with
    | none => pure (refuse server r (some route) 405)
    | some method =>
      if method ∈ route.methods then do
        let response ← dispatch server m r route method
        let response := server.origins.mark r response
        pure (if method = .head then { response with body := "" } else response)
      else pure (refuse server r (some route) 405)

end Intake.Http
