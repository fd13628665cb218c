import Intake.Http.Target

/-! # Routes

The paths that are answered and the methods that each of them takes. An id in a path is the whole of
its part, escapes and all, and never empty.
-/

namespace Intake.Http

inductive Method where
  | get
  | head
  | post
  | put
  | delete
deriving DecidableEq

namespace Method

def name : Method → String
  | get => "GET"
  | head => "HEAD"
  | post => "POST"
  | put => "PUT"
  | delete => "DELETE"

def all : List Method := [get, head, post, put, delete]

def ofName? (text : String) : Option Method := all.find? fun m => m.name = text

end Method

inductive Route where
  | health
  | metrics
  | products
  | product (id : String)
  | validate (id : String)
  | leads
  | lead (id : String)
  | schemaCheck
deriving DecidableEq

namespace Route

def ofSegments? : List String → Option Route
  | ["health"] => some health
  | ["metrics"] => some metrics
  | ["api", "products"] => some products
  | ["api", "products", id] => if id = "" then none else some (product id)
  | ["api", "products", id, "validate"] => if id = "" then none else some (validate id)
  | ["api", "leads"] => some leads
  | ["api", "leads", id] => if id = "" then none else some (lead id)
  | ["api", "schemas", "check"] => some schemaCheck
  | _ => none

def methods : Route → List Method
  | health => [.get, .head]
  | metrics => [.get, .head]
  | products => [.get, .head, .post]
  | product _ => [.get, .head, .put, .delete]
  | validate _ => [.post]
  | leads => [.get, .head, .post]
  | lead _ => [.get, .head, .put, .delete]
  | schemaCheck => [.post]

/-- The methods of a route as a header names them. -/
def allow (r : Route) : String := ",".intercalate (r.methods.map Method.name)

end Route

end Intake.Http
