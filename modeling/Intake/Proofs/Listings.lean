import Intake.Proofs.Numerals
import Intake.Proofs.Requests
import Intake.Settings

/-! # Listings

What has been granted to a service says what it lists: the records that were created and are left,
in the order of their creation and as the last of their changes made them. Reading page after page
gives the whole of it.
-/

namespace Intake

/-- Page limits under which a page holds at least one record. -/
structure PageLimits.Sound (limits : PageLimits) : Prop where
  positive : 0 < limits.standard
  ordered : limits.standard ≤ limits.greatest

theorem Settings.sound_of_check [Pattern.Engine] {settings : Settings}
    (h : settings.check = .ok ()) : settings.pageLimits.Sound := by
  unfold check at h
  split_ifs at h with hHost hPort hZero hCrossed
  exact ⟨Nat.pos_of_ne_zero hZero, Nat.le_of_not_lt hCrossed⟩

theorem PageLimits.Sound.limit {limits : PageLimits} (h : limits.Sound) (query : ListQuery) :
    1 ≤ (limits.resolve query).limit ∧ (limits.resolve query).limit ≤ limits.greatest := by
  obtain ⟨hPositive, hOrdered⟩ := h
  refine ⟨Nat.le_min.mpr ⟨?_, by omega⟩, Nat.min_le_right _ _⟩
  cases query.limit? with
  | none => exact hPositive
  | some n =>
    cases n with
    | zero => exact hPositive
    | succ n => exact Nat.succ_pos n

/-- An offset that is given as a numeral takes the place of any other. -/
theorem ListQuery.ofParams_offset (params : List (String × String)) {n : Nat} (h : n < 2 ^ 64) :
    ofParams (("offset", Limit.numeral n) :: params) =
      { ofParams params with offset? := some n } := by
  have hDigits : (Limit.numeral n).toList = Text.decimal n := String.toList_ofList
  have hTrim : Text.trim (Text.decimal n) = Text.decimal n :=
    Text.trim_of_visible fun c hMem => Text.isBlank_of_isDigit (Text.isDigit_of_mem_decimal hMem)
  have hOffset : number? (("offset", Limit.numeral n) :: params) "offset" = some n := by
    rw [number?, List.lookup_cons_self, Option.bind_some, hDigits, hTrim, Text.word64?_decimal h]
  have hLimit : number? (("offset", Limit.numeral n) :: params) "limit" =
      number? params "limit" := by
    rw [number?, number?, lookup_cons_of_ne (by decide)]
  have hProduct : (("offset", Limit.numeral n) :: params).lookup "product_id" =
      params.lookup "product_id" := lookup_cons_of_ne (by decide)
  rw [ofParams, ofParams, hLimit, hOffset, hProduct]

namespace Table

variable {α : Type} [Record α] {t : Table α} {id : String} {old : α}

theorem rows_replace (change : α → α) (found : t.find? id = some old)
    (kept : Record.id (change old) = Record.id old) :
    (t.replace (change old)).rows =
      t.rows.filterMap fun r => some (if Record.id r = id then change r else r) := by
  have hId : Record.id old = id := id_of_find? found
  rw [List.filterMap_eq_map']
  refine List.map_congr_left fun r hMem => ?_
  rw [put, kept, hId]
  split
  · next hSame =>
    have hFound : t.find? id = some r := find?_eq_some_iff.mpr ⟨hMem, hSame⟩
    rw [found] at hFound
    rw [Option.some.inj hFound]
  · rfl

theorem rows_remove (t : Table α) (id : String) :
    (t.remove id).rows = t.rows.filterMap fun r => if Record.id r = id then none else some r := by
  have hGuard : (fun r : α => if Record.id r = id then none else some r) =
      Option.guard fun r => Record.id r ≠ id := by
    funext r
    by_cases hId : Record.id r = id <;> simp [Option.guard, hId]
  rw [hGuard, List.filterMap_eq_filter]
  rfl

end Table

namespace Product

def created? : Request → Option Product
  | .createProduct id now body => some ⟨id, body.name, body.description, body.schema, now, now⟩
  | _ => none

def revised (now : Instant) (body : ProductRequest) (p : Product) : Product :=
  { p with name := body.name, description := body.description, schema := body.schema,
           updatedAt := now }

/-- A request changes and ends the product that has its id. -/
def changed? (r : Request) (p : Product) : Option Product :=
  match r with
  | .updateProduct id now body => some (if p.id = id then p.revised now body else p)
  | .deleteProduct id => if p.id = id then none else some p
  | _ => some p

end Product

namespace Lead

def created? : Request → Option Lead
  | .createLead id now body => some ⟨id, body.productId, body.data, now, now⟩
  | _ => none

def revised (now : Instant) (body : DataRequest) (l : Lead) : Lead :=
  { l with data := body.data, updatedAt := now }

/-- A request changes and ends the lead that has its id. -/
def changed? (r : Request) (l : Lead) : Option Lead :=
  match r with
  | .updateLead id now body => some (if l.id = id then l.revised now body else l)
  | .deleteLead id => if l.id = id then none else some l
  | _ => some l

end Lead

namespace Effect

variable {policy : Policy} {t u : Tables} {r : Request} {a : Answer}

theorem rows_of_kept {α : Type} {rows : List α} {changed? : α → Option α} {created? : Option α}
    (kept : changed? = some) (uncreated : created? = none) :
    rows = rows.filterMap changed? ++ created?.toList := by
  rw [kept, uncreated, List.filterMap_some, Option.toList_none, List.append_nil]

/-- What a granted request makes of the products. -/
theorem rows_products [Pattern.Engine] (h : Effect policy t r (.ok a) u) :
    u.products.rows =
      t.products.rows.filterMap (Product.changed? r) ++ (Product.created? r).toList := by
  cases h with
  | read a look => apply rows_of_kept <;> cases r <;> first | rfl | cases look
  | createProduct accepted inserted =>
    obtain ⟨-, hRows⟩ := Table.insert?_eq_some_iff.mp inserted
    exact hRows.trans (congrArg (· ++ _) List.filterMap_some.symm)
  | @updateProduct id now body schema old new accepted found new_eq =>
    subst new_eq
    exact (Table.rows_replace (Product.revised now body) found rfl).trans
      (List.append_nil _).symm
  | @deleteProduct id known =>
    exact (Table.rows_remove t.products id).trans (List.append_nil _).symm
  | createLead | updateLead | deleteLead => exact rows_of_kept rfl rfl

/-- What a granted request makes of the leads. -/
theorem rows_leads [Pattern.Engine] (h : Effect policy t r (.ok a) u) :
    u.leads.rows = t.leads.rows.filterMap (Lead.changed? r) ++ (Lead.created? r).toList := by
  cases h with
  | read a look => apply rows_of_kept <;> cases r <;> first | rfl | cases look
  | createLead found passes inserted =>
    obtain ⟨-, hRows⟩ := Table.insert?_eq_some_iff.mp inserted
    exact hRows.trans (congrArg (· ++ _) List.filterMap_some.symm)
  | @updateLead id now body product old new found product_found passes new_eq =>
    subst new_eq
    exact (Table.rows_replace (Lead.revised now body) found rfl).trans
      (List.append_nil _).symm
  | @deleteLead id known =>
    exact (Table.rows_remove t.leads id).trans (List.append_nil _).symm
  | createProduct | updateProduct | deleteProduct => exact rows_of_kept rfl rfl

end Effect

/-- Records that are listed: which request creates one, what a request makes of one if it leaves it,
and how a listing is asked for and answered. -/
class Listed (α : Type) extends Stored α where
  created? : Request → Option α
  changed? : Request → α → Option α
  isFor : Option String → α → Bool
  listing : ListQuery → Request
  answer : List α × Nat → Answer
  answer_injective : Function.Injective answer
  rows_of_granted [Pattern.Engine] {policy : Policy} {s : Service} {r : Request} {a : Answer} :
    (s.serve policy r).result = .ok a →
    (table (s.serve policy r).service.store.tables).rows =
      (table s.store.tables).rows.filterMap (changed? r) ++ (created? r).toList
  serve_listing [Pattern.Engine] (policy : Policy) (s : Service) (query : ListQuery) :
    s.serve policy (listing query) =
      ⟨.ok (answer (s.store.page (isFor query.productId?) (policy.limits.resolve query),
        s.store.count (isFor query.productId?))), s, []⟩

instance : Listed Product where
  created? := Product.created?
  changed? := Product.changed?
  isFor _ _ := true
  listing := .listProducts
  answer := .products
  answer_injective := fun _ _ h => Answer.products.inj h
  rows_of_granted h := (Effect.of_serve h).rows_products
  serve_listing _ _ _ := rfl

instance : Listed Lead where
  created? := Lead.created?
  changed? := Lead.changed?
  isFor := Lead.isFor
  listing := .listLeads
  answer := .leads
  answer_injective := fun _ _ h => Answer.leads.inj h
  rows_of_granted h := (Effect.of_serve h).rows_leads
  serve_listing _ _ _ := rfl

namespace Listed

variable {α : Type} [Listed α]

/-- What granted requests make of a record, if they leave it. -/
def lasting? : List Request → α → Option α
  | [], a => some a
  | r :: later, a => (changed? r a).bind (lasting? later)

variable (α) in
/-- The records that granted requests create and leave, as they leave them, in the order of their
creation. -/
def survivors : List Request → List α
  | [] => []
  | r :: later => ((created? r).bind (lasting? later)).toList ++ survivors later

end Listed

namespace Service

open Listed

variable {α : Type} [Listed α] (policy : Policy) (s : Service)

def rows (α : Type) [Listed α] (s : Service) : List α := (Stored.table s.store.tables).rows

/-- All the records that a query is about. -/
def listed (α : Type) [Listed α] (s : Service) (query : ListQuery) : List α :=
  (s.rows α).filter (isFor query.productId?)

/-- The records of a page that begins at an offset. -/
def pageAt (α : Type) [Listed α] (policy : Policy) (s : Service) (query : ListQuery)
    (offset : Nat) : List α :=
  ((s.listed α query).drop offset).take (policy.limits.resolve query).limit

section Answers

variable [Pattern.Engine]

theorem rows_of_error {r : Request} {e : ServiceError} (h : (s.serve policy r).result = .error e) :
    (s.serve policy r).service.rows α = s.rows α := by
  have hEffect := serve_effect policy s r
  rw [h] at hEffect
  generalize hTables : (s.serve policy r).service.store.tables = u at hEffect
  cases hEffect
  rw [rows, rows, hTables]

/-- The records of a service: those it had, as far as they are left, and those created since. -/
theorem rows_after (requests : List Request) :
    (s.after policy requests).rows α =
      (s.rows α).filterMap (lasting? (s.granted policy requests)) ++
        survivors α (s.granted policy requests) := by
  induction requests generalizing s with
  | nil =>
    have hLasting : lasting? ([] : List Request) = (some : α → Option α) := funext fun a => rfl
    rw [granted, hLasting, List.filterMap_some, survivors, List.append_nil]
    rfl
  | cons r rest ih =>
    have hAfter : s.after policy (r :: rest) = (s.serve policy r).service.after policy rest := rfl
    rw [hAfter, ih, granted]
    cases h : (s.serve policy r).result with
    | error e => rw [rows_of_error policy s h]
    | ok a =>
      have hRows : (s.serve policy r).service.rows α =
          (s.rows α).filterMap (changed? r) ++ (created? r).toList := rows_of_granted h
      have hNew (created : Option α) (later : List Request) :
          created.toList.filterMap (lasting? later) = (created.bind (lasting? later)).toList := by
        cases created with
        | none => rfl
        | some a => cases hLasting : lasting? later a <;> simp [hLasting]
      rw [hRows, List.filterMap_append, List.filterMap_filterMap, hNew, List.append_assoc]
      rfl

theorem serve_page (query : ListQuery) :
    s.serve policy (listing α query) =
      ⟨.ok (answer ((policy.limits.resolve query).cut (s.listed α query),
        (s.listed α query).length)), s, []⟩ := serve_listing policy s query

/-- Page after page is read, each from where the records received so far end, up to the first page
without records. -/
inductive ReadsOn (α : Type) [Listed α] (policy : Policy) (query : ListQuery) :
    Service → Nat → List α → Prop where
  | ended {s : Service} {offset total : Nat}
      (page : (s.serve policy (listing α { query with offset? := some offset })).result =
        .ok (answer (([] : List α), total))) : ReadsOn α policy query s offset []
  | more {s : Service} {offset total : Nat} {received rest : List α}
      (page : (s.serve policy (listing α { query with offset? := some offset })).result =
        .ok (answer (received, total))) (progress : received ≠ [])
      (later : ReadsOn α policy query
        (s.serve policy (listing α { query with offset? := some offset })).service
        (offset + received.length) rest) : ReadsOn α policy query s offset (received ++ rest)

end Answers

variable {policy s} {query : ListQuery} {offset total : Nat} {received read : List α}

section Pages

variable [Pattern.Engine]

theorem serve_pageAt (α : Type) [Listed α] (policy : Policy) (s : Service) (query : ListQuery)
    (offset : Nat) :
    (s.serve policy (listing α { query with offset? := some offset })).result =
      .ok (answer (s.pageAt α policy query offset, (s.listed α query).length)) := by
  rw [serve_page]
  rfl

theorem eq_pageAt
    (h : (s.serve policy (listing α { query with offset? := some offset })).result =
      .ok (answer (received, total))) : received = s.pageAt α policy query offset := by
  rw [serve_pageAt] at h
  exact (Prod.mk.inj (answer_injective (Except.ok.inj h))).1.symm

end Pages

variable (policy) in
/-- What follows a page begins where its records end. -/
theorem pageAt_append_drop :
    s.pageAt α policy query offset ++
        (s.listed α query).drop (offset + (s.pageAt α policy query offset).length) =
      (s.listed α query).drop offset := by
  rw [← List.drop_drop, pageAt, List.length_take]
  generalize (s.listed α query).drop offset = left
  generalize (policy.limits.resolve query).limit = limit
  rcases Nat.le_total limit left.length with hFull | hLast
  · rw [Nat.min_eq_left hFull, List.take_append_drop]
  · rw [Nat.min_eq_right hLast, List.drop_length, List.append_nil, List.take_of_length_le hLast]

section Reading

variable (positive : 0 < (policy.limits.resolve query).limit)
include positive

theorem pageAt_eq_nil_iff :
    s.pageAt α policy query offset = [] ↔ (s.listed α query).drop offset = [] := by
  rw [pageAt, List.take_eq_nil_iff]
  exact or_iff_right (Nat.ne_of_gt positive)

variable [Pattern.Engine]

theorem eq_drop_of_readsOn (h : ReadsOn α policy query s offset read) :
    read = (s.listed α query).drop offset := by
  induction h with
  | ended page => exact ((pageAt_eq_nil_iff positive).mp (eq_pageAt page).symm).symm
  | more page progress later ih =>
    rw [serve_page] at ih
    rw [ih, eq_pageAt page]
    exact pageAt_append_drop policy

-- On what is still to be read, which every page with records makes shorter.
theorem readsOn_drop (offset : Nat) :
    ReadsOn α policy query s offset ((s.listed α query).drop offset) := by
  induction hLeft : (s.listed α query).length - offset using Nat.strongRecOn
    generalizing offset with
  | _ left ih =>
    have hPage := serve_pageAt α policy s query offset
    by_cases hEnd : (s.listed α query).drop offset = []
    · rw [hEnd]
      rw [(pageAt_eq_nil_iff positive).mpr hEnd] at hPage
      exact .ended hPage
    · have hSome : s.pageAt α policy query offset ≠ [] := fun hNone =>
        hEnd ((pageAt_eq_nil_iff positive).mp hNone)
      have hShorter : (s.listed α query).length -
          (offset + (s.pageAt α policy query offset).length) < left := by
        have hLength := List.length_pos_of_ne_nil hSome
        have hRest : 0 < ((s.listed α query).drop offset).length := List.length_pos_of_ne_nil hEnd
        rw [List.length_drop] at hRest
        omega
      have hLater := ih _ hShorter (offset + (s.pageAt α policy query offset).length) rfl
      rw [← pageAt_append_drop policy]
      refine .more hPage hSome ?_
      rwa [serve_page]

end Reading

section Whole

variable [Pattern.Engine]

/-- A service lists just these records: each page is cut from them and tells their number, and page
after page gives all of them. -/
structure Lists (α : Type) [Listed α] (policy : Policy) (s : Service) (query : ListQuery)
    (records : List α) : Prop where
  distinct : (records.map Record.id).Nodup
  page (offset? : Option Nat) :
    s.serve policy (listing α { query with offset? := offset? }) =
      ⟨.ok (answer ((policy.limits.resolve { query with offset? := offset? }).cut records,
        records.length)), s, []⟩
  whole (read : List α) : ReadsOn α policy query s 0 read ↔ read = records

theorem lists_listed (sound : policy.limits.Sound) (query : ListQuery) :
    s.Lists α policy query (s.listed α query) where
  distinct := (Stored.table s.store.tables : Table α).distinct.sublist
    (List.filter_sublist.map Record.id)
  page offset? := serve_page policy s { query with offset? := offset? }
  whole read := by
    have hPositive : 0 < (policy.limits.resolve query).limit := (sound.limit query).1
    constructor
    · intro h
      exact eq_drop_of_readsOn hPositive h
    · rintro rfl
      exact readsOn_drop hPositive 0

theorem listed_after (empty : s.rows α = []) (requests : List Request) (query : ListQuery) :
    (s.after policy requests).listed α query =
      (survivors α (s.granted policy requests)).filter (isFor query.productId?) := by
  rw [listed, rows_after, empty, List.filterMap_nil, List.nil_append]

/-- Whatever was asked of a service that began with empty tables, and whatever the parameters of a
listing: it lists the products, or the leads of the product that is named, which the granted
requests created and left, in the order of their creation and with their last content. A page has
room for a record and is no longer than the greatest limit, as settings that were checked say. -/
theorem lists_survivors (policy : Policy) (sound : policy.limits.Sound) (s : Service)
    (empty : s.store.tables = {}) (requests : List Request) (params : List (String × String)) :
    let query := ListQuery.ofParams params
    let ended := s.after policy requests
    let granted := s.granted policy requests
    (∀ settings : Settings, settings.check = .ok () → settings.pageLimits.Sound) ∧
      (1 ≤ (policy.limits.resolve query).limit ∧
        (policy.limits.resolve query).limit ≤ policy.limits.greatest) ∧
      (∀ n < 2 ^ 64, ListQuery.ofParams (("offset", Limit.numeral n) :: params) =
        { query with offset? := some n }) ∧
      ended.Lists Product policy query (survivors Product granted) ∧
      ended.Lists Lead policy query
        ((survivors Lead granted).filter (Lead.isFor query.productId?)) := by
  intro query ended granted
  have hProducts : ended.listed Product query = survivors Product granted := by
    have hEmpty : s.rows Product = [] := by
      rw [rows, empty]
      rfl
    rw [listed_after hEmpty]
    exact List.filter_true _
  have hLeads : ended.listed Lead query =
      (survivors Lead granted).filter (Lead.isFor query.productId?) := by
    have hEmpty : s.rows Lead = [] := by
      rw [rows, empty]
      rfl
    exact listed_after hEmpty requests query
  refine ⟨fun settings h => settings.sound_of_check h, sound.limit query,
    fun n h => ListQuery.ofParams_offset params h, ?_, ?_⟩
  · rw [← hProducts]
    exact lists_listed sound query
  · rw [← hLeads]
    exact lists_listed sound query

end Whole

/-- One of three leads is changed and one is deleted. -/
theorem lists_survivors_changed_and_deleted :
    let now : Instant := ⟨0, 0⟩
    let later : Instant := ⟨1, 0⟩
    let definition : Value := .object [("name", .object [("type", .text "string")])]
    let named (name : String) : Value := .object [("name", .text name)]
    let policy : Policy := { limits := ⟨1, 2⟩ }
    let requests : List Request := [.createProduct "p" now ⟨"Loans", "", definition⟩,
      .createLead "a" now ⟨"p", named "Ann"⟩, .createLead "b" now ⟨"p", named "Bo"⟩,
      .createLead "c" now ⟨"p", named "Cy"⟩, .updateLead "a" later ⟨named "Anna"⟩,
      .createLead "a" later ⟨"p", named "Al"⟩, .deleteLead "b"]
    policy.limits.Sound ∧ ({} : Service).store.tables = {} ∧
      (({} : Service).after policy requests).Lists Lead policy
        (ListQuery.ofParams [("product_id", "p"), ("limit", "zero")])
        [⟨"a", "p", named "Anna", now, later⟩, ⟨"c", "p", named "Cy", now, now⟩] := by
  intro now later definition named policy requests
  have hSound : policy.limits.Sound := ⟨Nat.one_pos, Nat.le_succ 1⟩
  have hSurvivors : (survivors Lead (({} : Service).granted policy requests)).filter
      (Lead.isFor (some "p")) =
        [⟨"a", "p", named "Anna", now, later⟩, ⟨"c", "p", named "Cy", now, now⟩] := by
      decide +kernel
  have hQuery : (ListQuery.ofParams [("product_id", "p"), ("limit", "zero")]).productId? =
      some "p" := by decide +kernel
  obtain ⟨-, -, -, -, hLeads⟩ := lists_survivors policy hSound {} rfl requests
    [("product_id", "p"), ("limit", "zero")]
  rw [hQuery, hSurvivors] at hLeads
  exact ⟨hSound, rfl, hLeads⟩

end Service

end Intake
