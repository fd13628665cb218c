import Intake.Proofs.ReceivedBodies
import Intake.Proofs.StoresOnDisk
import Intake.Proofs.WriteGate

/-! # Data that is written back

What a service shows of a lead is handed in again, as it stands in the reply. It is read as the data
that the lead holds, which passes a definition that it has passed before. But a date in a year that
has no four digits is shown as a text that is no date, and some doubles are read as the next ones.
-/

namespace Intake

namespace Reply

/-- The body that hands in the data of a reply. -/
def resubmission? : Json → Option String
  | .obj reply => (reply.lookup "data").map fun data => (Json.obj [("data", data)]).compact
  | _ => none

end Reply

namespace Body

open Json

variable {v : Value}

/-- Data that has been read from a body is read from its own text, if no double drifts. -/
theorem read_resubmitted (sourced : v.Sourced) (doubles : v.DoublesLast) (trailing : Bool) :
    read trailing (obj [("data", v.toJson)]).compact =
      .ok (⟨Value.ofJson v.toJson⟩ : DataRequest) := by
  have hKept : v.toJson.reparsed = v.toJson := sourced.reparsed_toJson doubles
  exact read_compact_data ⟨sourced.isDocument, hKept ▸ sourced.regular_reparsed⟩ hKept trailing

end Body

/-- The body of a request has been read from a text. -/
def Request.Arrived : Request → Prop
  | createProduct _ _ body => Body.Arrived body
  | updateProduct _ _ body => Body.Arrived body
  | createLead _ _ body => Body.Arrived body
  | updateLead _ _ body => Body.Arrived body
  | validateData _ body => Body.Arrived body
  | checkSchema body => Body.Arrived body
  | _ => True

theorem Request.Arrived.sourced_submitted {r : Request} (h : r.Arrived) {id : String} {v : Value}
    (submitted : r.submitted? = some (id, v)) : v.Sourced := by
  cases r with
  | createLead leadId now body =>
    cases submitted
    exact Body.sourced_leadData h
  | updateLead leadId now body =>
    cases submitted
    exact Body.sourced_data h
  | _ => cases submitted

theorem Store.update_of_contains {α : Type} [Stored α] {s : Store} {r : α}
    (known : (Stored.table s.tables : Table α).contains (Record.id r) = true) :
    (s.update r).1 = .ok () ∨
      s.backing? ≠ none ∧ ∃ task path cause, (s.update r).1 = .error (.disk task path cause) := by
  unfold update save
  dsimp only
  rw [if_pos known]
  cases s.backing? with
  | none => exact .inl rfl
  | some b =>
    dsimp only
    cases hSave : Files.save b r with
    | mk result b' =>
      cases result with
      | ok => exact .inl rfl
      | error e =>
        obtain ⟨task, path, cause, rfl⟩ := Files.disk_of_save_error hSave
        exact .inr ⟨nofun, task, path, cause, rfl⟩

namespace Service

open Operation

variable {policy : Policy} {s : Service}

section Answers

variable [Pattern.Engine]

/-- A request is answered so, or its disk has failed. -/
def Accepts (policy : Policy) (s : Service) (r : Request) (a : Answer) : Prop :=
  (s.serve policy r).result = .ok a ∨
    s.store.backing? ≠ none ∧
      ∃ task path cause, (s.serve policy r).result = .error (.storage (.disk task path cause))

theorem serve_getLead {l : Lead} {id : String} (found : s.store.tables.leads.find? id = some l) :
    (s.serve policy (.getLead id)).result = .ok (.lead l) := by
  have hGet : s.store.get id = .ok l := Store.get_eq_ok_iff.mpr found
  rw [serve, Request.operation, perform_map, getLead, perform_ask_getLead s hGet]
  rfl

theorem accepts_updateLead {l : Lead} {product : Product} {id : String} {body : DataRequest}
    (found : s.store.tables.leads.find? id = some l)
    (product_found : s.store.tables.products.find? l.productId = some product)
    (passes : product.Passes policy.rules body.data) (now : Instant) :
    s.Accepts policy (.updateLead id now body)
      (.lead { l with data := body.data, updatedAt := now }) := by
  have hGet : s.store.get id = .ok l := Store.get_eq_ok_iff.mpr found
  obtain ⟨log, hChecked⟩ := perform_checkData_of_passes s .write product_found passes
  let new : Lead := { l with data := body.data, updatedAt := now }
  let checked : Service := { s with counters := s.counters.bump .validationsPassed }
  have hKnown : (Stored.table s.store.tables : Table Lead).contains (Record.id new) = true := by
    refine Table.contains_eq_true_iff.mpr ⟨l, ?_⟩
    have hId : Record.id l = id := Table.id_of_find? found
    change s.store.tables.leads.find? (Record.id l) = some l
    rwa [hId]
  unfold Accepts serve Request.operation updateLead
  rw [perform_map, perform_bind, perform_ask_getLead s hGet, Ran.andThen_ok, perform_bind,
    hChecked, Ran.andThen_ok, perform_bind]
  rcases Store.update_of_contains hKnown with hOk | ⟨hBacking, task, path, cause, hError⟩
  · rw [perform_ask_of_ok (c := .updateLead new) checked hOk]
    exact .inl rfl
  · rw [perform_ask_of_error (c := .updateLead new) checked hError]
    exact .inr ⟨hBacking, task, path, cause, rfl⟩

/-- What is asked of a service that began with empty tables has come as text. Then a lead that is
asked for can be written back: its data, as it stands in the reply, is read as the data that it is
and accepted, if the product of the lead is there with the definition it had when the lead was last
written, and the data has only dates in years of four digits and doubles that its text keeps. Apart
from texts, data from a document with such dates still passes every definition that it passes once
it has been written and read again. -/
theorem returned_data_accepted (policy : Policy) (s : Service) (empty : s.store.tables = {})
    (requests : List Request) (arrived : ∀ r ∈ requests, r.Arrived) :
    let ended := s.after policy requests
    (∀ l ∈ ended.store.tables.leads.rows,
      (ended.serve policy (.getLead l.id)).result = .ok (.lead l) ∧
      ∃ before write later, s.Written policy requests l before write later ∧
        ∀ p q, ended.store.tables.products.find? l.productId = some p →
          (s.after policy before).store.tables.products.find? l.productId = some q →
          p.schema = q.schema → l.data.Lasting →
          ∀ (now : Instant) (trailing : Bool), ∃ text,
            Reply.resubmission? (Reply.lead l) = some text ∧
            Body.read trailing text = .ok (⟨l.data⟩ : DataRequest) ∧
            ended.Accepts policy (.updateLead l.id now ⟨l.data⟩)
              (.lead { l with updatedAt := now })) ∧
    ∀ (schema : Schema) (j : Json), j.IsDocument →
      let v := Value.ofJson j
      v.YearsFit → schema.validate policy.rules v = .ok () →
        schema.validate policy.rules (Value.ofJson v.toJson) = .ok () := by
  intro ended
  refine ⟨?_, ?_⟩
  · intro l hMem
    have hFound : ended.store.tables.leads.find? l.id = some l :=
      Table.find?_eq_some_iff.mpr ⟨hMem, rfl⟩
    obtain ⟨before, write, later, hWritten⟩ := exists_written (by rw [empty]; rfl) requests l hMem
    refine ⟨serve_getLead hFound, before, write, later, hWritten, ?_⟩
    intro p q hNow hThen same lasting now trailing
    have hWrite : write ∈ requests := by
      rw [hWritten.split]
      exact List.mem_append_right _ List.mem_cons_self
    have hSourced : l.data.Sourced :=
      (arrived write hWrite).sourced_submitted hWritten.admitted.submitted
    have hPasses : p.Passes policy.rules l.data := by
      obtain ⟨met, hMet, hPassed⟩ := hWritten.admitted.passes
      obtain rfl : met = q := Option.some.inj (hMet.symm.trans hThen)
      rwa [Product.Passes, same]
    have hRead : Body.read trailing (Json.obj [("data", l.data.toJson)]).compact =
        .ok (⟨l.data⟩ : DataRequest) := by
      rw [Body.read_resubmitted hSourced lasting.doubles,
        hSourced.ofJson_toJson lasting.years]
    exact ⟨_, rfl, hRead, accepts_updateLead hFound hNow hPasses now⟩
  · intro schema j document v years passes
    have hSame : Value.ofJson v.toJson = v := (Value.returns_ofJson document).read_iff.mpr years
    rwa [hSame]

end Answers

/-- A definition with one field, for a date. -/
def datedDefinition : Value := .object [("born", .object [("type", .text "date")])]

theorem arrived_datedDefinition :
    Body.Arrived (⟨"Loans", "", datedDefinition⟩ : ProductRequest) := by
  have hSchema : (Json.obj [("born", .obj [("type", .str "date")])]).Received :=
    ⟨.obj (List.forall_mem_singleton.mpr (.obj (List.forall_mem_singleton.mpr (.str _)))),
      .obj (List.forall_mem_singleton.mpr (.obj (List.forall_mem_singleton.mpr (.str _))
        (List.nodup_singleton _))) (List.nodup_singleton _)⟩
  exact ⟨false, _, Body.read_compact_product hSchema rfl false "Loans" ""⟩

/-- A lead with a day of birth, in thousandths of a second. -/
theorem arrived_born {n : Int} {data : Value} (lower : -2 ^ 63 ≤ n) (upper : n < 2 ^ 64)
    (read : Value.ofJson (.obj [("born", .obj [("$date", .int n)])]) = data) :
    Body.Arrived (⟨"p", data⟩ : LeadRequest) := by
  have hData : (Json.obj [("born", .obj [("$date", .int n)])]).Received :=
    ⟨.obj (List.forall_mem_singleton.mpr (.obj (List.forall_mem_singleton.mpr
      (.int lower upper)))), .obj (List.forall_mem_singleton.mpr
        (.obj (List.forall_mem_singleton.mpr (.int _)) (List.nodup_singleton _)))
          (List.nodup_singleton _)⟩
  exact ⟨false, _, read ▸ Body.read_compact_lead hData rfl false "p"⟩

/-- A lead of someone born on the second day of 1970. -/
theorem returned_data_accepted_everyday_date :
    let start : Instant := ⟨0, 0⟩
    let data : Value := .object [("born", .date ⟨86400, 0⟩)]
    let l : Lead := ⟨"l", "p", data, start, start⟩
    let requests : List Request :=
      [.createProduct "p" start ⟨"Loans", "", datedDefinition⟩, .createLead "l" start ⟨"p", data⟩]
    let ended := ({} : Service).after {} requests
    ({} : Service).store.tables = {} ∧ (∀ r ∈ requests, r.Arrived) ∧
      ended.store.tables.leads.rows = [l] ∧ l.data.Lasting ∧
      ∃ text, Reply.resubmission? (Reply.lead l) = some text ∧
        Body.read false text = .ok (⟨data⟩ : DataRequest) ∧
        ended.Accepts {} (.updateLead "l" start ⟨data⟩) (.lead l) := by
  intro start data l requests ended
  have hLead : Body.Arrived (⟨"p", data⟩ : LeadRequest) :=
    arrived_born (n := 86400000) (by decide) (by decide) (by decide +kernel)
  have hArrived : ∀ r ∈ requests, r.Arrived := by
    simp only [requests, List.forall_mem_cons]
    exact ⟨arrived_datedDefinition, hLead, fun r hMem => absurd hMem List.not_mem_nil⟩
  have hRows : ended.store.tables.leads.rows = [l] := by decide +kernel
  have hLasting : l.data.Lasting := by
    refine ⟨fun t hDate => ?_, Value.doublesLast_object (List.forall_mem_singleton.mpr ?_)⟩
    swap
    · rintro x ⟨⟩
    obtain ⟨m, hMem, hHere⟩ := Value.hasDate_object_iff.mp hDate
    rw [List.mem_singleton.mp hMem] at hHere
    rw [Value.hasDate_date_iff.mp hHere]
    decide
  have hThen : (({} : Service).after {} [requests[0]]).store.tables.products.find? "p" =
      some ⟨"p", "Loans", "", datedDefinition, start, start⟩ := by decide +kernel
  have hNow : ended.store.tables.products.find? "p" =
      some ⟨"p", "Loans", "", datedDefinition, start, start⟩ := by decide +kernel
  obtain ⟨hLeads, -⟩ := returned_data_accepted {} {} rfl requests hArrived
  obtain ⟨-, before, write, later, hWritten, hAccepted⟩ :=
    hLeads l (hRows ▸ List.mem_singleton_self l)
  -- Only the second request submits data.
  have hBefore : before = [requests[0]] := by
    have hSplit := hWritten.split
    have hSubmitted := hWritten.admitted.submitted
    cases before with
    | nil =>
      obtain ⟨rfl, -⟩ := List.cons.inj hSplit
      cases hSubmitted
    | cons first rest =>
      obtain ⟨rfl, hRest⟩ := List.cons.inj hSplit
      cases rest with
      | nil => rfl
      | cons second rest =>
        have hLength := congrArg List.length hRest
        simp at hLength
  subst hBefore
  exact ⟨rfl, hArrived, hRows, hLasting, hAccepted _ _ hNow hThen rfl hLasting start false⟩

/-- The first instant of the year 10000 is shown as a text that is no date, which is refused. -/
theorem returned_data_refused_year_10000 :
    let start : Instant := ⟨0, 0⟩
    let data : Value := .object [("born", .date ⟨253402300800, 0⟩)]
    let l : Lead := ⟨"l", "p", data, start, start⟩
    let p : Product := ⟨"p", "Loans", "", datedDefinition, start, start⟩
    let requests : List Request :=
      [.createProduct "p" start ⟨"Loans", "", datedDefinition⟩, .createLead "l" start ⟨"p", data⟩]
    let met := ({} : Service).after {} (requests.take 1)
    let ended := ({} : Service).after {} requests
    let text := "\x7b\"data\":\x7b\"born\":\x7b\"$date\":\"+10000-01-01T00:00:00Z\"\x7d\x7d\x7d"
    (∀ r ∈ requests, r.Arrived) ∧
      (ended.serve {} (.getLead "l")).result = .ok (.lead l) ∧
      met.store.tables.products.find? "p" = some p ∧
      ended.store.tables.products.find? "p" = some p ∧
      Reply.resubmission? (Reply.lead l) = some text ∧
      ∃ body : DataRequest, Body.read false text = .ok body ∧
        (ended.serve {} (.updateLead "l" start body)).result =
          .error (.invalidData ⟨[.field "born"], .mismatch .date (.wrongKind .date)⟩) := by
  intro start data l p requests met ended text
  have hLead : Body.Arrived (⟨"p", data⟩ : LeadRequest) :=
    arrived_born (n := 253402300800000) (by decide) (by decide) (by decide +kernel)
  have hArrived : ∀ r ∈ requests, r.Arrived := by
    simp only [requests, List.forall_mem_cons]
    exact ⟨arrived_datedDefinition, hLead, fun r hMem => absurd hMem List.not_mem_nil⟩
  have hGiven : (ended.serve {} (.getLead "l")).result = .ok (.lead l) := by decide +kernel
  have hThen : met.store.tables.products.find? "p" = some p := by decide +kernel
  have hNow : ended.store.tables.products.find? "p" = some p := by decide +kernel
  have hShown : Reply.resubmission? (Reply.lead l) = some text := by decide +kernel
  let body : DataRequest :=
    ⟨.object [("born", .object [("$date", .text "+10000-01-01T00:00:00Z")])]⟩
  have hRead : Body.read false text = .ok body := by
    have hText : text = (Json.obj [("data", data.toJson)]).compact := by decide +kernel
    have hBody : body = ⟨Value.ofJson data.toJson⟩ := by decide +kernel
    rw [hText, hBody]
    exact Body.read_resubmitted (Body.sourced_leadData hLead)
      (Value.doublesLast_object (List.forall_mem_singleton.mpr (by rintro x ⟨⟩))) false
  have hRefused : (ended.serve {} (.updateLead "l" start body)).result =
      .error (.invalidData ⟨[.field "born"], .mismatch .date (.wrongKind .date)⟩) := by
    decide +kernel
  exact ⟨hArrived, hGiven, hThen, hNow, hShown, body, hRead, hRefused⟩

end Service

end Intake
