import Intake.Proofs.RecordText
import Intake.Service.Message

/-! # Values that come with a body

What is read as a field of a body is part of a document, and not too deep to be read again inside
of a record.
-/

namespace Intake

namespace Json

/-- Tokens that come from a text. -/
def Genuine (ts : List Token) : Prop :=
  ∀ token ∈ ts, token.IsDocument ∧ ∀ value, token = .atom value → ∀ depth, value.Regular depth

theorem genuine_tokens (text : List Char) : Genuine (tokens text) := by
  intro token hMem
  refine ⟨isDocument_of_mem_tokens hMem, ?_⟩
  rintro value rfl depth
  exact regular_of_mem_tokens hMem depth

theorem Genuine.suffix {ts rest : List Token} (h : Genuine ts) (suffix : rest <:+ ts) :
    Genuine rest :=
  fun token hMem => h token (suffix.subset hMem)

theorem Genuine.tail {token : Token} {ts : List Token} (h : Genuine (token :: ts)) : Genuine ts :=
  h.suffix (List.suffix_cons token ts)

theorem run_suffix {limit : Nat} {want : Want} {stack : List Frame} {ts rest : List Token}
    {value : Json} (h : run limit want stack ts = some (value, rest)) : rest <:+ ts := by
  induction ts generalizing want stack with
  | nil => cases h
  | cons token ts ih =>
    rw [run] at h
    split at h
    · cases h
      exact List.suffix_cons token _
    · exact (ih h).trans (List.suffix_cons token ts)
    · cases h

theorem skip_suffix {want : Skip} {stack : List Bool} {ts rest : List Token}
    (h : skip want stack ts = some rest) : rest <:+ ts := by
  induction ts generalizing want stack with
  | nil => cases h
  | cons token ts ih =>
    rw [skip] at h
    split at h
    · cases h
      exact List.suffix_cons token _
    · exact (ih h).trans (List.suffix_cons token ts)
    · cases h

theorem received_of_readField {shape : Shape} {ts rest : List Token} {value : Json}
    (genuine : Genuine ts) (h : readField shape ts = .ok (value, rest)) :
    value.Received ∧ Genuine rest := by
  unfold readField at h
  split at h
  · cases h
  · next token tail =>
    split at h
    · cases h
    · split at h
      · next hRun =>
        split at h
        · cases h
          refine ⟨⟨run_isDocument ?_ ?_ hRun, run_regular ?_ ?_ hRun⟩,
            genuine.suffix (run_suffix hRun)⟩
          · exact fun t hMem => (genuine t hMem).1
          · exact fun _ hMem => absurd hMem List.not_mem_nil
          · exact fun v hMem => (genuine _ hMem).2 v rfl
          · exact trivial
        · cases h
      · cases h

/-- Every member of a row has been read. -/
def Row.Received (row : Row) : Prop := ∀ m ∈ row, m.2.Received

theorem Row.Received.append {row : Row} (h : row.Received) {value : Json} (name : String)
    (received : value.Received) : Row.Received (row ++ [(name, value)]) := by
  intro m hMem
  rcases List.mem_append.mp hMem with hMem | hMem
  · exact h m hMem
  · rw [List.mem_singleton.mp hMem]
    exact received

variable {fields : List Field}

mutual

theorem received_of_readMembers {first : Bool} {row row' : Row} {ts rest : List Token}
    (genuine : Genuine ts) (received : row.Received)
    (h : readMembers fields first row ts = .ok (row', rest)) : row'.Received := by
  rw [readMembers.eq_def] at h
  split at h
  · cases h
    exact received
  · split at h
    · cases h
    · exact received_of_readMember genuine.tail.tail received h
  · split at h
    · exact received_of_readMember genuine.tail received h
    · cases h
  · cases h
termination_by (ts.length, 0)

theorem received_of_readMember {row row' : Row} {key : String} {ts rest : List Token}
    (genuine : Genuine ts) (received : row.Received)
    (h : readMembers.readMember fields row key ts = .ok (row', rest)) : row'.Received := by
  rw [readMembers.readMember.eq_def] at h
  split at h
  · split at h
    · cases h
    · split at h
      · split at h
        · next hField =>
          have hShorter := readField_length hField
          obtain ⟨hValue, hRest⟩ := received_of_readField genuine.tail hField
          exact received_of_readMembers hRest (received.append _ hValue) h
        · cases h
      · cases h
  · split at h
    · split at h
      · next hSkip =>
        have hShorter := skip_length hSkip
        exact received_of_readMembers (genuine.tail.suffix (skip_suffix hSkip)) received h
      · cases h
    · cases h
termination_by (ts.length, 1)
decreasing_by
  · subst_vars
    exact Prod.Lex.left _ _ (Nat.lt_succ_of_lt hShorter)
  · subst_vars
    exact Prod.Lex.left _ _ (Nat.lt_succ_of_lt hShorter)

end

theorem received_of_fill {row row' : Row} (received : row.Received)
    (defaults : ∀ field ∈ fields, ∀ value, field.default = some value → value.Received)
    (h : fill row fields = .ok row') : row'.Received := by
  induction fields generalizing row with
  | nil =>
    cases h
    exact received
  | cons field fields ih =>
    obtain ⟨hDefault, hDefaults⟩ := List.forall_mem_cons.mp defaults
    rw [fill] at h
    split at h
    · exact ih received hDefaults h
    · split at h
      · next value hValue => exact ih (received.append _ (hDefault value hValue)) hDefaults h
      · cases h

theorem received_of_readItems {first : Bool} {row row' : Row} {ts rest : List Token}
    (genuine : Genuine ts) (received : row.Received)
    (defaults : ∀ field ∈ fields, ∀ value, field.default = some value → value.Received)
    (h : readItems first row ts fields = .ok (row', rest)) : row'.Received := by
  induction fields generalizing first row ts with
  | nil =>
    rw [readItems.eq_def] at h
    dsimp only at h
    split at h
    · cases h
      exact received
    · cases h
  | cons field fields ih =>
    have hDefaults := fun field hField => defaults field (List.mem_cons_of_mem _ hField)
    have hNext {ts' rest' : List Token} {value : Json} (genuine' : Genuine ts')
        (hField : readField field.shape ts' = .ok (value, rest'))
        (h' : readItems false (row ++ [(field.name, value)]) rest' fields = .ok (row', rest)) :
        row'.Received := by
      obtain ⟨hValue, hRest⟩ := received_of_readField genuine' hField
      exact ih hRest (received.append _ hValue) hDefaults h'
    rw [readItems.eq_def] at h
    dsimp only at h
    split at h
    · cases hFill : fill row (field :: fields) with
      | error fault =>
        rw [hFill] at h
        cases h
      | ok filled =>
        rw [hFill] at h
        cases h
        exact received_of_fill received defaults hFill
    · split at h
      · next hField => exact hNext genuine hField h
      · cases h
    · cases h
    · split at h
      · next hField => exact hNext genuine.tail hField h
      · cases h
    · cases h

/-- Every field of a record that is read from a text holds what has been read, or its default. -/
theorem received_of_readRow {trailing : Bool} {text : List Char} {row : Row}
    (defaults : ∀ field ∈ fields, ∀ value, field.default = some value → value.Received)
    (h : readRow fields trailing text = .ok row) : row.Received := by
  have hNone : Row.Received [] := nofun
  unfold readRow at h
  split at h
  · next row' rest hRecord =>
    obtain rfl : row' = row := by
      split at h <;> cases h
      rfl
    have hGenuine := genuine_tokens text
    unfold readRecord at hRecord
    split at hRecord
    · next hTokens =>
      rw [hTokens] at hGenuine
      split at hRecord
      · next filled _ hMembers =>
        have hFilled := received_of_readMembers hGenuine.tail hNone hMembers
        cases hFill : fill filled fields with
        | error fault =>
          rw [hFill] at hRecord
          cases hRecord
        | ok done =>
          rw [hFill] at hRecord
          cases hRecord
          exact received_of_fill hFilled defaults hFill
      · cases hRecord
    · next hTokens =>
      rw [hTokens] at hGenuine
      exact received_of_readItems hGenuine.tail hNone defaults hRecord
    · cases hRecord
    · cases hRecord
    · cases hRecord
  · cases h

theorem Row.Received.get {row : Row} (h : row.Received) (name : String) :
    (row.get name).Received := by
  unfold Row.get
  cases hLookup : row.lookup name with
  | none => exact ⟨.null, .null⟩
  | some value =>
    obtain ⟨front, back, rfl, -⟩ := List.lookup_eq_some_iff.mp hLookup
    exact h (name, value) (by simp)

end Json

open Json

namespace Body

variable {trailing : Bool} {text : String}

/-- A body that has been read from a text. -/
def Arrived {α : Type} [Body α] (body : α) : Prop :=
  ∃ trailing text, read trailing text = .ok body

/-- A body is read from the text of a member for each of its fields, if no double drifts. -/
theorem read_compact {α : Type} [Body α] (members : List (String × Json))
    (documents : ∀ m ∈ members, m.2.IsDocument) (kept : reparsedMembers members = members)
    (claimed : ∀ m ∈ members, Claims (fields α) m) (distinct : (members.map Prod.fst).Nodup)
    (complete : members ≠ [] ∧ ∀ field ∈ fields α, (members.lookup field.name).isSome)
    (trailing : Bool) : read trailing (obj members).compact = .ok (ofRow members : α) := by
  have hSpelled : tokens (obj members).compact.toList = tokensOf (obj members) := by
    rw [tokens_compact (.obj documents), reparsed, kept]
  rw [read, readRow_of_tokens hSpelled claimed complete.1 distinct complete.2]
  rfl

section Messages

variable {j : Json} (received : j.Received) (kept : j.reparsed = j) (trailing : Bool)

include received kept

theorem read_compact_product (name description : String) :
    read trailing (obj [("name", .str name), ("description", .str description),
      ("schema", j)]).compact = .ok (⟨name, description, .ofJson j⟩ : ProductRequest) := by
  refine read_compact _ ?_ ?_ ?_ (by simp) ⟨List.cons_ne_nil _ _, ?_⟩ trailing
  · simp only [List.forall_mem_cons]
    exact ⟨.str _, .str _, received.isDocument, List.forall_mem_nil _⟩
  · simp only [reparsedMembers, reparsed, kept]
  · simp only [List.forall_mem_cons]
    exact ⟨⟨_, rfl, takes_text _⟩, ⟨_, rfl, takes_text _⟩, ⟨_, rfl, takes_any received.regular⟩,
      List.forall_mem_nil _⟩
  · simp only [fields, List.forall_mem_cons]
    exact ⟨rfl, rfl, rfl, List.forall_mem_nil _⟩

theorem read_compact_lead (productId : String) :
    read trailing (obj [("product_id", .str productId), ("data", j)]).compact =
      .ok (⟨productId, .ofJson j⟩ : LeadRequest) := by
  refine read_compact _ ?_ ?_ ?_ (by simp) ⟨List.cons_ne_nil _ _, ?_⟩ trailing
  · simp only [List.forall_mem_cons]
    exact ⟨.str _, received.isDocument, List.forall_mem_nil _⟩
  · simp only [reparsedMembers, reparsed, kept]
  · simp only [List.forall_mem_cons]
    exact ⟨⟨_, rfl, takes_text _⟩, ⟨_, rfl, takes_any received.regular⟩, List.forall_mem_nil _⟩
  · simp only [fields, List.forall_mem_cons]
    exact ⟨rfl, rfl, List.forall_mem_nil _⟩

theorem read_compact_data :
    read trailing (obj [("data", j)]).compact = .ok (⟨.ofJson j⟩ : DataRequest) := by
  refine read_compact _ ?_ ?_ ?_ (by simp) ⟨List.cons_ne_nil _ _, ?_⟩ trailing
  · exact List.forall_mem_singleton.mpr received.isDocument
  · simp only [reparsedMembers, kept]
  · exact List.forall_mem_singleton.mpr ⟨_, rfl, takes_any received.regular⟩
  · exact List.forall_mem_singleton.mpr rfl

end Messages

theorem exists_row {α : Type} [Body α] {body : α}
    (defaults : ∀ field ∈ fields α, ∀ value, field.default = some value → value.Received)
    (arrived : Arrived body) : ∃ row : Row, row.Received ∧ body = ofRow row := by
  obtain ⟨trailing, text, hRead⟩ := arrived
  unfold read at hRead
  cases hRow : readRow (fields α) trailing text.toList with
  | error fault =>
    rw [hRow] at hRead
    cases hRead
  | ok row =>
    rw [hRow] at hRead
    cases hRead
    exact ⟨row, received_of_readRow defaults hRow, rfl⟩

theorem sourced_schema {body : ProductRequest} (arrived : Arrived body) :
    body.schema.Sourced := by
  obtain ⟨row, hRow, rfl⟩ := exists_row
    (by
      simp only [fields, List.forall_mem_cons]
      refine ⟨nofun, ?_, nofun, nofun⟩
      rintro value ⟨rfl⟩
      exact ⟨.str _, .str _⟩) arrived
  exact ⟨_, hRow.get _, rfl⟩

theorem sourced_leadData {body : LeadRequest} (arrived : Arrived body) :
    body.data.Sourced := by
  obtain ⟨row, hRow, rfl⟩ := exists_row
    (by
      simp only [fields, List.forall_mem_cons]
      exact ⟨nofun, nofun, nofun⟩) arrived
  exact ⟨_, hRow.get _, rfl⟩

theorem sourced_data {body : DataRequest} (arrived : Arrived body) :
    body.data.Sourced := by
  obtain ⟨row, hRow, rfl⟩ := exists_row
    (by
      simp only [fields, List.forall_mem_cons]
      exact ⟨nofun, nofun⟩) arrived
  exact ⟨_, hRow.get _, rfl⟩

end Body

end Intake
