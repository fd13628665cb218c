import Intake.Proofs.Requests
import Mathlib.Data.List.Induction

/-! # The gate before every write

What is stored got in through the gate. A product holds a definition that was read strictly, and a
lead the data of the last request that wrote it, which passed the definition that its product had
at that time. Everything follows from what one request may do.
-/

namespace Intake

namespace Effect

variable [Pattern.Engine] {policy : Policy} {t u : Tables} {r : Request}
  {result : Except ServiceError Answer}

/-- Only a request that succeeds on a lead changes what is found under its id. -/
theorem find?_lead (h : Effect policy t r result u) {id : String}
    (other : ∀ a, result = .ok a → r.changedLead? ≠ some id) :
    u.leads.find? id = t.leads.find? id := by
  cases h with
  | refused | read | createProduct | updateProduct | deleteProduct => rfl
  | @createLead leadId _ _ _ _ _ _ inserted =>
    have hId : id ≠ leadId := fun hEq => other _ rfl (congrArg some hEq.symm)
    exact Table.find?_of_insert?_of_ne inserted hId
  | @updateLead leadId _ _ _ old new found _ _ new_eq =>
    have hId : id ≠ leadId := fun hEq => other _ rfl (congrArg some hEq.symm)
    have hOld : old.id = leadId := Table.id_of_find? found
    have hNew : new.id = leadId := by rw [new_eq, ← hOld]
    exact Table.find?_replace_of_ne fun hEq => hId (hEq.trans hNew)
  | @deleteLead leadId known =>
    have hId : id ≠ leadId := fun hEq => other _ rfl (congrArg some hEq.symm)
    exact Table.find?_remove_of_ne hId

theorem leads_of_isForProducts (h : Effect policy t r result u)
    (products : r.isForProducts = true) : u.leads = t.leads := by
  cases h with
  | createLead | updateLead | deleteLead => cases products
  | _ => rfl

/-- A product that is found was found before, unless its definition has been set. -/
theorem find?_product (h : Effect policy t r result u) {id : String} {p : Product}
    (other : ∀ a, result = .ok a → r.definedProduct? ≠ some id)
    (found : u.products.find? id = some p) : t.products.find? id = some p := by
  cases h with
  | refused | read | createLead | updateLead | deleteLead => exact found
  | @createProduct productId _ _ _ _ _ inserted =>
    have hId : id ≠ productId := fun hEq => other _ rfl (congrArg some hEq.symm)
    rwa [Table.find?_of_insert?_of_ne inserted hId] at found
  | @updateProduct productId _ _ _ old new _ oldFound new_eq =>
    have hId : id ≠ productId := fun hEq => other _ rfl (congrArg some hEq.symm)
    have hOld : old.id = productId := Table.id_of_find? oldFound
    have hNew : new.id = productId := by rw [new_eq, ← hOld]
    rwa [Table.find?_replace_of_ne fun hEq => hId (hEq.trans hNew)] at found
  | @deleteProduct productId known =>
    have hId : id ≠ productId := by
      rintro rfl
      rw [Table.find?_remove_self] at found
      cases found
    rwa [Table.find?_remove_of_ne hId] at found

/-- A product that is stored was stored before or has just been accepted. -/
theorem mem_products (h : Effect policy t r result u) {p : Product} (stored : p ∈ u.products.rows) :
    p ∈ t.products.rows ∨ ∃ schema, Schema.ofDefinition p.schema = .ok schema := by
  cases h with
  | refused | read | createLead | updateLead | deleteLead => exact .inl stored
  | createProduct accepted inserted =>
    obtain ⟨-, hRows⟩ := Table.insert?_eq_some_iff.mp inserted
    rw [hRows] at stored
    rcases List.mem_append.mp stored with hOld | hNew
    · exact .inl hOld
    · rw [List.mem_singleton.mp hNew]
      exact .inr ⟨_, accepted⟩
  | updateProduct accepted found new_eq =>
    obtain ⟨old, hOld, hPut⟩ := List.mem_map.mp stored
    unfold Table.put at hPut
    split at hPut
    · rw [← hPut, new_eq]
      exact .inr ⟨_, accepted⟩
    · exact .inl (hPut ▸ hOld)
  | deleteProduct known => exact .inl (List.mem_of_mem_filter stored)

/-- A lead that is stored was stored before and is left alone, or has just passed the gate. -/
theorem mem_leads (h : Effect policy t r result u) {l : Lead} (stored : l ∈ u.leads.rows) :
    (l ∈ t.leads.rows ∧ ∀ a, result = .ok a → r.changedLead? ≠ some l.id) ∨
      r.submitted? = some (l.id, l.data) ∧ result = .ok (.lead l) ∧
        ∃ p, t.products.find? l.productId = some p ∧ p.Passes policy.rules l.data := by
  cases h with
  | refused => exact .inl ⟨stored, nofun⟩
  | read _ look => exact .inl ⟨stored, fun _ _ hChanged => by
      rw [Request.changedLead?_of_isLook look] at hChanged
      cases hChanged⟩
  | createProduct | updateProduct | deleteProduct => exact .inl ⟨stored, nofun⟩
  | createLead found passes inserted =>
    obtain ⟨hUntaken, hRows⟩ := Table.insert?_eq_some_iff.mp inserted
    rw [hRows] at stored
    rcases List.mem_append.mp stored with hOld | hNew
    · refine .inl ⟨hOld, fun _ _ hChanged => ?_⟩
      have hTaken : t.leads.contains l.id = true :=
        Table.contains_eq_true_iff.mpr ⟨l, Table.find?_eq_some_iff.mpr ⟨hOld, rfl⟩⟩
      rw [← Option.some.inj hChanged] at hTaken
      exact Bool.false_ne_true (hUntaken.symm.trans hTaken)
    · rw [List.mem_singleton.mp hNew]
      exact .inr ⟨rfl, rfl, _, found, passes⟩
  | @updateLead leadId _ _ _ old new found productFound passes new_eq =>
    have hId : old.id = leadId := Table.id_of_find? found
    have hNew : new.id = leadId := by rw [new_eq, ← hId]
    obtain ⟨s, hMem, hPut⟩ := List.mem_map.mp stored
    unfold Table.put at hPut
    split at hPut
    · rw [← hPut, new_eq]
      exact .inr ⟨by rw [← hId]; rfl, rfl, _, productFound, passes⟩
    · next hOther =>
      refine .inl ⟨hPut ▸ hMem, fun _ _ hChanged => hOther ?_⟩
      rw [hPut]
      exact (Option.some.inj hChanged).symm.trans hNew.symm
  | deleteLead known =>
    obtain ⟨hMem, hOther⟩ := List.mem_filter.mp stored
    refine .inl ⟨hMem, fun _ _ hChanged => ?_⟩
    obtain rfl := Option.some.inj hChanged
    exact of_decide_eq_true hOther rfl

end Effect

namespace Service

section Writes

variable [Pattern.Engine]

/-- A request that succeeds in changing a lead. -/
def ChangesLead (policy : Policy) (s : Service) (r : Request) (id : String) : Prop :=
  r.changedLead? = some id ∧ ∃ a, (s.serve policy r).result = .ok a

/-- A request that succeeds in setting the definition of a product. -/
def DefinesProduct (policy : Policy) (s : Service) (r : Request) (id : String) : Prop :=
  r.definedProduct? = some id ∧ ∃ a, (s.serve policy r).result = .ok a

/-- A request succeeds in writing a lead: it submits just the data that the lead holds, and the data
passes the definition that the product of the lead has. -/
structure Admits (policy : Policy) (s : Service) (r : Request) (l : Lead) : Prop where
  submitted : r.submitted? = some (l.id, l.data)
  answered : (s.serve policy r).result = .ok (.lead l)
  passes : ∃ p, s.store.tables.products.find? l.productId = some p ∧ p.Passes policy.rules l.data

/-- What came of a lead that is stored after some requests: the last of them that wrote it, and
those behind it. -/
structure Written (policy : Policy) (s : Service) (requests : List Request) (l : Lead)
    (before : List Request) (write : Request) (later : List Request) : Prop where
  split : requests = before ++ write :: later
  admitted : (s.after policy before).Admits policy write l
  last : ∀ step ∈ (s.after policy (before ++ [write])).steps policy later,
    ¬step.1.ChangesLead policy step.2 l.id

variable {policy : Policy} {s : Service}

theorem exists_written (empty : s.store.tables.leads.rows = []) (requests : List Request) :
    ∀ l ∈ (s.after policy requests).store.tables.leads.rows,
      ∃ before write later, s.Written policy requests l before write later := by
  -- From the end: the last request has written the lead, or the lead has the history it had.
  induction requests using List.reverseRecOn with
  | nil =>
    intro l hMem
    change l ∈ s.store.tables.leads.rows at hMem
    rw [empty] at hMem
    cases hMem
  | append_singleton requests r ih =>
    intro l hMem
    have hEffect := serve_effect policy (s.after policy requests) r
    rw [after_append] at hMem
    rcases hEffect.mem_leads hMem with ⟨hOld, hOther⟩ | ⟨submitted, answered, passes⟩
    · obtain ⟨before, write, later, hWritten⟩ := ih l hOld
      refine ⟨before, write, later ++ [r], ?_, hWritten.admitted, ?_⟩
      · rw [hWritten.split]
        simp
      · intro step hStep
        rw [steps_append] at hStep
        rcases List.mem_append.mp hStep with hStep | hStep
        · exact hWritten.last step hStep
        · have hLater : (s.after policy (before ++ [write])).after policy later =
              s.after policy requests := by
            rw [← after_append, hWritten.split]
            simp
          rw [hLater] at hStep
          rw [List.mem_singleton.mp hStep]
          rintro ⟨hChanged, a, hOk⟩
          exact hOther a hOk hChanged
    · exact ⟨requests, r, [], rfl, ⟨submitted, answered, passes⟩, nofun⟩

/-- As long as its definition is not set again, a product that is found has been there all along. -/
theorem find?_product_of_steps {id : String} {p : Product} (requests : List Request)
    (unset : ∀ step ∈ s.steps policy requests, ¬step.1.DefinesProduct policy step.2 id)
    (found : (s.after policy requests).store.tables.products.find? id = some p) :
    s.store.tables.products.find? id = some p := by
  induction requests generalizing s with
  | nil => exact found
  | cons r rest ih =>
    have hNext : (s.serve policy r).service.store.tables.products.find? id = some p :=
      ih (fun step hStep => unset step (List.mem_cons_of_mem _ hStep)) found
    refine (serve_effect policy s r).find?_product ?_ hNext
    intro a hOk hDefined
    exact unset (s, r) List.mem_cons_self ⟨hDefined, a, hOk⟩

/-- The data of a lead still passes if the definition of its product has not been set since. -/
theorem Written.passes {requests before later : List Request} {write : Request} {l : Lead}
    (h : s.Written policy requests l before write later)
    (unset : ∀ step ∈ (s.after policy (before ++ [write])).steps policy later,
      ¬step.1.DefinesProduct policy step.2 l.productId) {p : Product}
    (found : (s.after policy requests).store.tables.products.find? l.productId = some p) :
    p.Passes policy.rules l.data := by
  have hLater : (s.after policy (before ++ [write])).after policy later =
      s.after policy requests := by
    rw [← after_append, h.split]
    simp
  have hThen : (s.after policy (before ++ [write])).store.tables.products.find? l.productId =
      some p := find?_product_of_steps later unset (hLater ▸ found)
  rw [after_append] at hThen
  obtain ⟨q, hFound, hPasses⟩ := h.admitted.passes
  have hWrite : write.definedProduct? = none := by
    have hSubmitted := h.admitted.submitted
    cases write <;> first | rfl | cases hSubmitted
  have hBefore : (s.after policy before).store.tables.products.find? l.productId = some p := by
    refine (serve_effect policy _ write).find?_product ?_ hThen
    intro a _ hDefined
    rw [hWrite] at hDefined
    cases hDefined
  rw [hFound] at hBefore
  exact Option.some.inj hBefore ▸ hPasses

theorem products_accepted (empty : s.store.tables.products.rows = []) (requests : List Request) :
    ∀ p ∈ (s.after policy requests).store.tables.products.rows,
      ∃ schema, Schema.ofDefinition p.schema = .ok schema := by
  induction requests using List.reverseRecOn with
  | nil =>
    intro p hMem
    change p ∈ s.store.tables.products.rows at hMem
    rw [empty] at hMem
    cases hMem
  | append_singleton requests r ih =>
    intro p hMem
    rw [after_append] at hMem
    rcases (serve_effect policy (s.after policy requests) r).mem_products hMem with hOld | hNew
    · exact ih p hOld
    · exact hNew

/-- Whatever is asked of a service that began with empty tables: every product that is stored holds
a definition that is accepted, and every lead the data of the last request that wrote it, which
passed the definition of the product at that time. It passes the definition that the product has
now if that has not been set since. Nothing but a request that succeeds on a lead changes it. -/
theorem writes_pass_gate (policy : Policy) (s : Service) (empty : s.store.tables = {})
    (requests : List Request) :
    let now := (s.after policy requests).store.tables
    (∀ p ∈ now.products.rows, ∃ schema, Schema.ofDefinition p.schema = .ok schema) ∧
      (∀ l ∈ now.leads.rows, ∃ before write later,
        s.Written policy requests l before write later ∧
          ((∀ step ∈ (s.after policy (before ++ [write])).steps policy later,
              ¬step.1.DefinesProduct policy step.2 l.productId) →
            ∀ p, now.products.find? l.productId = some p → p.Passes policy.rules l.data)) ∧
      ∀ (t : Service) (r : Request),
        (∀ id, ¬t.ChangesLead policy r id →
          (t.serve policy r).service.store.tables.leads.find? id =
            t.store.tables.leads.find? id) ∧
        (r.isForProducts = true →
          (t.serve policy r).service.store.tables.leads = t.store.tables.leads) := by
  intro now
  refine ⟨products_accepted (by rw [empty]; rfl) requests, ?_, ?_⟩
  · intro l hMem
    obtain ⟨before, write, later, hWritten⟩ := exists_written (by rw [empty]; rfl) requests l hMem
    exact ⟨before, write, later, hWritten, fun unset p found => hWritten.passes unset found⟩
  · intro t r
    have hEffect := serve_effect policy t r
    refine ⟨fun id other => hEffect.find?_lead ?_, hEffect.leads_of_isForProducts⟩
    intro a hOk hChanged
    exact other ⟨hChanged, a, hOk⟩

end Writes

/-- A lead, and then a definition of its product that asks for a number where the lead has a
text. -/
theorem writes_pass_gate_before_stricter :
    let now : Instant := ⟨0, 0⟩
    let definition (kind : String) : Value := .object [("name", .object [("type", .text kind)])]
    let data : Value := .object [("name", .text "Jane")]
    let requests : List Request := [.createProduct "p" now ⟨"Loans", "", definition "string"⟩,
      .createLead "l" now ⟨"p", data⟩, .updateProduct "p" now ⟨"Loans", "", definition "number"⟩]
    let ended := ({} : Service).after {} requests
    ({} : Service).store.tables = {} ∧
      ended.store.tables.leads.rows = [⟨"l", "p", data, now, now⟩] ∧
      ∃ before write later,
        ({} : Service).Written {} requests ⟨"l", "p", data, now, now⟩ before write later := by
  intro now definition data requests ended
  have hRows : ended.store.tables.leads.rows = [⟨"l", "p", data, now, now⟩] := by decide +kernel
  obtain ⟨-, hLeads, -⟩ := writes_pass_gate {} {} rfl requests
  obtain ⟨before, write, later, hWritten, -⟩ :=
    hLeads ⟨"l", "p", data, now, now⟩ (hRows ▸ List.mem_singleton_self _)
  exact ⟨rfl, hRows, before, write, later, hWritten⟩

end Service

end Intake
