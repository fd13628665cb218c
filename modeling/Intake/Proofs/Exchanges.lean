import Intake.Http.Exchange
import Intake.Proofs.Accounts
import Intake.Proofs.Payloads
import Intake.Proofs.ReceivedBodies

/-! # Exchanges

A request over HTTP for products or leads is a request of the service: what is left of it once its
path, its query and its body have been read. The client is told how that ends, but of what went
wrong inside it is told only that it did.
-/

namespace Intake.Http

/-- What the handlers do, each with the id that a path gives it. -/
inductive Handler where
  | createProduct
  | listProducts
  | getProduct (id : String)
  | updateProduct (id : String)
  | deleteProduct (id : String)
  | validateData (productId : String)
  | createLead
  | listLeads
  | getLead (id : String)
  | updateLead (id : String)
  | deleteLead (id : String)
  | checkSchema

namespace Handler

/-- The handler of a method and the parts of a path. An id is any text that escapes can spell. -/
inductive Takes : Handler → String → List String → Prop where
  | createProduct : Takes createProduct "POST" ["api", "products"]
  | listProducts : Takes listProducts "GET" ["api", "products"]
  | getProduct {raw id : String} (named : raw ≠ "") (spells : Target.decode? raw = some id) :
      Takes (getProduct id) "GET" ["api", "products", raw]
  | updateProduct {raw id : String} (named : raw ≠ "") (spells : Target.decode? raw = some id) :
      Takes (updateProduct id) "PUT" ["api", "products", raw]
  | deleteProduct {raw id : String} (named : raw ≠ "") (spells : Target.decode? raw = some id) :
      Takes (deleteProduct id) "DELETE" ["api", "products", raw]
  | validateData {raw id : String} (named : raw ≠ "") (spells : Target.decode? raw = some id) :
      Takes (validateData id) "POST" ["api", "products", raw, "validate"]
  | createLead : Takes createLead "POST" ["api", "leads"]
  | listLeads : Takes listLeads "GET" ["api", "leads"]
  | getLead {raw id : String} (named : raw ≠ "") (spells : Target.decode? raw = some id) :
      Takes (getLead id) "GET" ["api", "leads", raw]
  | updateLead {raw id : String} (named : raw ≠ "") (spells : Target.decode? raw = some id) :
      Takes (updateLead id) "PUT" ["api", "leads", raw]
  | deleteLead {raw id : String} (named : raw ≠ "") (spells : Target.decode? raw = some id) :
      Takes (deleteLead id) "DELETE" ["api", "leads", raw]
  | checkSchema : Takes checkSchema "POST" ["api", "schemas", "check"]

end Handler

section Handling

variable {policy : Policy} {s : Service} {α : Type}

end Handling

section Exchanging

variable (server : Server) (m : Moment) (s : Service) {r : Request}

section Running

variable [Pattern.Engine]

end Running

end Exchanging

end Intake.Http
