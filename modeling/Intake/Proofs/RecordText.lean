import Intake.Proofs.DocumentReading
import Intake.Proofs.LastingDoubles
import Intake.Proofs.LooseReading
import Intake.Record

/-! # Records read back from their files

A record whose times can be written and whose value comes from a document is read from the text of
its file, with the value that this text holds. It is the value of the record if its dates and its
doubles are among those that come back.
-/

namespace Intake

namespace Json

/-- A value that can stand inside of a container. -/
structure Received (j : Json) : Prop where
  isDocument : j.IsDocument
  regular : j.Regular (deepest - 1)

/-- A field of this shape takes a value from its tokens. -/
def Shape.Takes (shape : Shape) (value : Json) : Prop :=
  ∀ rest, readField shape (tokensOf value ++ rest) = .ok (value, rest)

theorem takes_of_run {shape : Shape} {value : Json} (regular : value.Regular (deepest - 1))
    (admitted : shape.admits value = true)
    (unrefused : ∀ token ∈ (tokensOf value).head?, shape.refusesToken token = false) :
    shape.Takes value := by
  intro rest
  have hRun := run_tokensOf regular rest
  cases hTokens : tokensOf value ++ rest with
  | nil =>
    rw [hTokens] at hRun
    cases hRun
  | cons token tail =>
    have hHead : shape.refusesToken token = false := by
      refine unrefused token ?_
      cases hValue : tokensOf value with
      | nil => cases value <;> cases hValue
      | cons first others =>
        rw [hValue] at hTokens
        cases hTokens
        rfl
    rw [hTokens] at hRun
    rw [readField, hHead, if_neg Bool.false_ne_true, hRun]
    simp [admitted]

theorem takes_any {value : Json} (regular : value.Regular (deepest - 1)) :
    Shape.any.Takes value :=
  takes_of_run regular rfl fun _ _ => rfl

theorem takes_text (s : String) : Shape.text.Takes (.str s) :=
  takes_of_run (.str s) rfl fun _ h => by cases h; rfl

theorem takes_moment {t : Instant} (legal : t.IsLegal) :
    Shape.moment.Takes (Record.timeJson t) := by
  refine takes_of_run (.str _) ?_ fun _ h => by cases h; rfl
  rw [Record.timeJson, Shape.admits, String.toList_ofList, Instant.readLoose?_text legal]
  rfl

variable {fields : List Field}

/-- A member goes to the field of its name. -/
def Claims (fields : List Field) (m : String × Json) : Prop :=
  ∃ field, fields.find? (fun field => field.name = m.1) = some field ∧ field.shape.Takes m.2

theorem readMember_claimed {key : String} {value : Json} (claimed : Claims fields (key, value))
    {row : Row} (fresh : row.lookup key = none) (rest : List Token) :
    readMembers.readMember fields row key (.colon :: (tokensOf value ++ rest)) =
      readMembers fields false (row ++ [(key, value)]) rest := by
  obtain ⟨field, hField, hTakes⟩ := claimed
  rw [readMembers.readMember, hField]
  simp only [fresh, Option.isSome_none, Bool.false_eq_true, if_false]
  split
  · next h =>
    rw [hTakes rest] at h
    cases h
    rfl
  · next h =>
    rw [hTakes rest] at h
    cases h

theorem lookup_of_not_mem {α : Type} {members : List (String × α)} {key : String}
    (h : key ∉ members.map Prod.fst) : members.lookup key = none := by
  rw [lookup_eq_none_iff_forall]
  intro v hMem
  exact h (List.mem_map_of_mem hMem)

/-- Written members are read one by one, each by its field. -/
theorem readMembers_written {members : List (String × Json)}
    (each : ∀ m ∈ members, Claims fields m) (nonempty : members ≠ []) (first : Bool) (row : Row)
    (distinct : ((row ++ members).map Prod.fst).Nodup) (rest : List Token) :
    readMembers fields first row
      ((if first then [] else [.comma]) ++ (memberTokens members ++ .closeObject :: rest)) =
      .ok (row ++ members, rest) := by
  induction members generalizing first row with
  | nil => exact absurd rfl nonempty
  | cons m others ih =>
    obtain ⟨key, value⟩ := m
    have hFresh : row.lookup key = none := by
      refine lookup_of_not_mem fun hMem => ?_
      rw [List.map_append, List.nodup_append] at distinct
      exact distinct.2.2 key hMem key (by simp) rfl
    have hMember := readMember_claimed (each (key, value) List.mem_cons_self) hFresh
    have hBegin (tail : List Token) :
        readMembers fields first row ((if first then [] else [.comma]) ++ .text key :: tail) =
          readMembers.readMember fields row key tail := by
      cases first <;> rw [readMembers.eq_def] <;> rfl
    -- The comma belongs to the member behind it, and the brace follows the last one.
    cases others with
    | nil =>
      rw [memberTokens, List.cons_append, hBegin, List.cons_append, hMember, readMembers]
    | cons next others =>
      have hSplit : row ++ (key, value) :: next :: others =
          row ++ [(key, value)] ++ next :: others := by simp
      have hOthers := ih (fun m hm => each m (List.mem_cons_of_mem _ hm)) (List.cons_ne_nil _ _)
        false (row ++ [(key, value)]) (hSplit ▸ distinct)
      rw [memberTokens_cons_cons]
      simp only [List.cons_append, List.append_assoc]
      rw [hBegin, hMember, hSplit]
      exact hOthers

theorem fill_of_isSome {row : Row} (complete : ∀ field ∈ fields, (row.lookup field.name).isSome) :
    fill row fields = .ok row := by
  induction fields with
  | nil => rfl
  | cons field fields ih =>
    rw [fill, if_pos (complete field List.mem_cons_self)]
    exact ih fun field hField => complete field (List.mem_cons_of_mem _ hField)

/-- A text is read as a record if its tokens are those of a document, each of whose members goes to
a field, and none is left out. -/
theorem readRow_of_tokens {text : List Char} {members : List (String × Json)}
    (spelled : tokens text = tokensOf (obj members)) (each : ∀ m ∈ members, Claims fields m)
    (nonempty : members ≠ []) (distinct : (members.map Prod.fst).Nodup)
    (complete : ∀ field ∈ fields, (members.lookup field.name).isSome) (trailing : Bool) :
    readRow fields trailing text = .ok members := by
  have hMembers := readMembers_written each nonempty true [] distinct []
  rw [if_pos rfl, List.nil_append, List.nil_append] at hMembers
  rw [readRow, spelled, tokensOf, List.cons_append, readRecord, hMembers]
  dsimp only
  rw [fill_of_isSome complete]
  cases trailing <;> rfl

theorem readRow_written {members row : List (String × Json)} (document : (obj members).IsDocument)
    (reparsed : reparsedMembers members = row) (each : ∀ m ∈ row, Claims fields m)
    (nonempty : row ≠ []) (distinct : (row.map Prod.fst).Nodup)
    (complete : ∀ field ∈ fields, (row.lookup field.name).isSome) :
    readRow fields false (obj members).pretty.toList = .ok row := by
  have hTokens : tokens (obj members).pretty.toList = tokensOf (obj row) := by
    rw [tokens_pretty document, Json.reparsed, reparsed]
  exact readRow_of_tokens hTokens each nonempty distinct complete false

end Json

namespace Value

theorem toNat_mem_bounds (word : UInt32) :
    -2 ^ 63 ≤ (word.toNat : Int) ∧ (word.toNat : Int) < 2 ^ 64 := by
  have hLt : word.toNat < 2 ^ 32 := word.toNat_lt
  omega

theorem isDocument_wrapTimestamp (t : StoreTimestamp) : (wrapTimestamp t).IsDocument := by
  refine .obj fun m hm => ?_
  rw [List.mem_singleton.mp hm]
  refine .obj fun m hm => ?_
  simp only [List.mem_cons, List.not_mem_nil, or_false] at hm
  rcases hm with rfl | rfl
  · exact .int (toNat_mem_bounds _).1 (toNat_mem_bounds _).2
  · exact .int (toNat_mem_bounds _).1 (toNat_mem_bounds _).2

theorem isDocument_wrapDate (t : Instant) : (wrapDate t).IsDocument := by
  refine .obj fun m hm => ?_
  rw [List.mem_singleton.mp hm]
  exact .str _

/-- What is written of a value that was read from a document is a document again. -/
theorem isDocument_rewritten {j : Json} (document : j.IsDocument) : (rewritten j).IsDocument := by
  induction document with
  | null => exact .null
  | bool b => exact .bool b
  | str s => exact .str s
  | @int n lower upper =>
    by_cases hSigned : -2 ^ 63 ≤ n ∧ n < 2 ^ 63
    · rw [rewritten_int_of_lt hSigned]
      exact .int lower upper
    · have hFinite : (Double.ofInt n).isFinite = true := Double.isFinite_ofInt (by omega)
      rw [rewritten_int_of_not hSigned, rewritten, ofJson, toJson, if_pos hFinite]
      exact .float hFinite
  | float finite =>
    rw [rewritten, ofJson, toJson, if_pos finite]
    exact .float finite
  | arr each ih =>
    rw [rewritten_arr]
    exact .arr (List.forall_mem_map.mpr ih)
  | @obj members each ih =>
    cases h : wrapped? members with
    | some native =>
      rw [rewritten, ofJson_obj_of_wrapped h]
      rcases native_of_wrapped? h with ⟨t, rfl, -⟩ | ⟨t, rfl⟩
      · exact isDocument_wrapDate t
      · exact isDocument_wrapTimestamp t
    | none =>
      rw [rewritten_obj_of_plain h]
      exact .obj (List.forall_mem_map.mpr ih)

/-- A wrapped store timestamp lies in an object of its own. -/
theorem depth_of_wrapped_timestamp {depth : Nat} {members : List (String × Json)}
    {t : StoreTimestamp} (h : wrapped? members = some (.timestamp t))
    (each : ∀ m ∈ members, m.2.Regular depth) : ∃ inner, depth = inner + 1 := by
  unfold wrapped? at h
  split at h
  · next key value =>
    have hValue : value.Regular depth := each (key, value) List.mem_cons_self
    split at h
    · obtain ⟨s, hDate, -⟩ := eq_date_of_dateOf? h
      cases hDate
    · split at h
      · unfold timestampOf? at h
        split at h
        · cases hValue
          exact ⟨_, rfl⟩
        · cases h
      · cases h
  · cases h

theorem regular_wrapDate {depth : Nat} (t : Instant) : (wrapDate t).Regular (depth + 1) := by
  refine .obj (fun m hm => ?_) (List.nodup_singleton _)
  rw [List.mem_singleton.mp hm]
  exact .str _

theorem regular_wrapTimestamp {depth : Nat} (t : StoreTimestamp) :
    (wrapTimestamp t).Regular (depth + 2) := by
  refine .obj (fun m hm => ?_) (List.nodup_singleton _)
  rw [List.mem_singleton.mp hm]
  refine .obj (fun m hm => ?_) (by simp)
  simp only [List.mem_cons, List.not_mem_nil, or_false] at hm
  rcases hm with rfl | rfl
  · exact .int _
  · exact .int _

theorem regular_rewritten_float {depth : Nat} (x : Double) :
    (rewritten (.float x)).Regular depth := by
  rw [rewritten, ofJson, toJson]
  split
  · exact .float x
  · exact .null

theorem regular_rewritten {depth : Nat} {j : Json} (regular : j.Regular depth) :
    (rewritten j).Regular depth := by
  induction regular with
  | null => exact .null
  | bool b => exact .bool b
  | str s => exact .str s
  | int n =>
    by_cases hSigned : -2 ^ 63 ≤ n ∧ n < 2 ^ 63
    · rw [rewritten_int_of_lt hSigned]
      exact .int n
    · rw [rewritten_int_of_not hSigned]
      exact regular_rewritten_float _
  | float x => exact regular_rewritten_float x
  | arr each ih =>
    rw [rewritten_arr]
    exact .arr (List.forall_mem_map.mpr ih)
  | @obj depth members each distinct ih =>
    cases h : wrapped? members with
    | some native =>
      rw [rewritten, ofJson_obj_of_wrapped h]
      rcases native_of_wrapped? h with ⟨t, rfl, -⟩ | ⟨t, rfl⟩
      · exact regular_wrapDate t
      · obtain ⟨inner, rfl⟩ := depth_of_wrapped_timestamp h each
        exact regular_wrapTimestamp t
    | none =>
      rw [rewritten_obj_of_plain h]
      refine .obj (List.forall_mem_map.mpr ih) ?_
      rwa [List.map_map]

/-- A value that is read from a document. The object or array of a record is around it. -/
def Sourced (v : Value) : Prop := ∃ j : Json, j.Received ∧ v = ofJson j

/-- All dates lie in years of four digits. -/
def YearsFit (v : Value) : Prop := ∀ t, v.HasDate t → 0 ≤ t.day.year ∧ t.day.year ≤ 9999

/-- What is read of a value from its text. -/
def filed (v : Value) : Value := ofJson v.toJson.reparsed

variable {v : Value}

/-- A value of which nothing changes on the way to a text and back. -/
structure Lasting (v : Value) : Prop where
  years : v.YearsFit
  doubles : v.DoublesLast

theorem Sourced.isDocument (h : v.Sourced) : v.toJson.IsDocument := by
  obtain ⟨j, hReceived, rfl⟩ := h
  exact isDocument_rewritten hReceived.isDocument

theorem Sourced.regular_reparsed (h : v.Sourced) :
    v.toJson.reparsed.Regular (Json.deepest - 1) := by
  obtain ⟨j, hReceived, rfl⟩ := h
  exact (regular_rewritten hReceived.regular).reparsed

theorem Sourced.reparsed_toJson (h : v.Sourced) (doubles : v.DoublesLast) :
    v.toJson.reparsed = v.toJson := by
  obtain ⟨j, hReceived, rfl⟩ := h
  exact reparsed_rewritten hReceived.isDocument doubles

theorem Sourced.ofJson_toJson (h : v.Sourced) (years : v.YearsFit) : ofJson v.toJson = v := by
  obtain ⟨j, hReceived, rfl⟩ := h
  exact (returns_ofJson hReceived.isDocument).read_iff.mpr years

theorem Sourced.filed_eq (h : v.Sourced) (lasting : v.Lasting) : v.filed = v := by
  rw [filed, h.reparsed_toJson lasting.doubles, h.ofJson_toJson lasting.years]

end Value

theorem Instant.isLegal_of_inRange {second : Int} (h : (⟨second, 0⟩ : Instant).inRange = true) :
    (⟨second, 0⟩ : Instant).IsLegal :=
  ⟨h, Nat.zero_lt_succ _, nofun⟩

/-- A product whose definition comes from a document, at times that can be written. -/
structure Product.Sourced (p : Product) : Prop where
  schema : p.schema.Sourced
  createdAt : p.createdAt.IsLegal
  updatedAt : p.updatedAt.IsLegal

structure Lead.Sourced (l : Lead) : Prop where
  data : l.data.Sourced
  createdAt : l.createdAt.IsLegal
  updatedAt : l.updatedAt.IsLegal

structure Product.Storable (p : Product) : Prop extends p.Sourced where
  lasting : p.schema.Lasting

structure Lead.Storable (l : Lead) : Prop extends l.Sourced where
  lasting : l.data.Lasting

/-- What is read of a product from its file. -/
def Product.filed (p : Product) : Product := { p with schema := p.schema.filed }

def Lead.filed (l : Lead) : Lead := { l with data := l.data.filed }

@[simp]
theorem Product.id_filed (p : Product) : Record.id p.filed = Record.id p := rfl

@[simp]
theorem Lead.id_filed (l : Lead) : Record.id l.filed = Record.id l := rfl

theorem Product.Storable.filed_eq {p : Product} (h : p.Storable) : p.filed = p := by
  rw [Product.filed, h.schema.filed_eq h.lasting]

theorem Lead.Storable.filed_eq {l : Lead} (h : l.Storable) : l.filed = l := by
  rw [Lead.filed, h.data.filed_eq h.lasting]

open Json Record

/-- A product is read from the text of its file, with its definition as the text has it. -/
theorem Product.read_fileText {p : Product} (h : p.Sourced) : read (fileText p) = .ok p.filed := by
  let members : List (String × Json) :=
    [("id", .str p.id), ("name", .str p.name), ("description", .str p.description),
      ("schema", p.schema.toJson), ("created_at", timeJson p.createdAt),
      ("updated_at", timeJson p.updatedAt)]
  let row : List (String × Json) :=
    [("id", .str p.id), ("name", .str p.name), ("description", .str p.description),
      ("schema", p.schema.toJson.reparsed), ("created_at", timeJson p.createdAt),
      ("updated_at", timeJson p.updatedAt)]
  have hRead : readRow (fields Product) false (obj members).pretty.toList = .ok row := by
    refine readRow_written (.obj ?_) rfl ?_ (List.cons_ne_nil _ _) (by simp [row]) ?_
    · simp only [members, List.forall_mem_cons]
      exact ⟨.str _, .str _, .str _, h.schema.isDocument, .str _, .str _, nofun⟩
    · simp only [row, List.forall_mem_cons]
      exact ⟨⟨_, rfl, takes_text _⟩, ⟨_, rfl, takes_text _⟩, ⟨_, rfl, takes_text _⟩,
        ⟨_, rfl, takes_any h.schema.regular_reparsed⟩, ⟨_, rfl, takes_moment h.createdAt⟩,
        ⟨_, rfl, takes_moment h.updatedAt⟩, nofun⟩
    · simp only [row, fields, List.forall_mem_cons]
      exact ⟨rfl, rfl, rfl, rfl, rfl, rfl, nofun⟩
  have hCreated := Instant.readLoose?_text h.createdAt
  have hUpdated := Instant.readLoose?_text h.updatedAt
  unfold Record.read
  rw [show (fileText p).toList = (obj members).pretty.toList from rfl, hRead, Except.map]
  simp [row, ofRow, Row.text, Row.moment, Row.get, timeJson, text?, List.lookup_cons, hCreated,
    hUpdated, Product.filed, Value.filed]

/-- A lead is read from the text of its file, with its data as the text has it. -/
theorem Lead.read_fileText {l : Lead} (h : l.Sourced) : read (fileText l) = .ok l.filed := by
  let members : List (String × Json) :=
    [("id", .str l.id), ("product_id", .str l.productId), ("data", l.data.toJson),
      ("created_at", timeJson l.createdAt), ("updated_at", timeJson l.updatedAt)]
  let row : List (String × Json) :=
    [("id", .str l.id), ("product_id", .str l.productId), ("data", l.data.toJson.reparsed),
      ("created_at", timeJson l.createdAt), ("updated_at", timeJson l.updatedAt)]
  have hRead : readRow (fields Lead) false (obj members).pretty.toList = .ok row := by
    refine readRow_written (.obj ?_) rfl ?_ (List.cons_ne_nil _ _) (by simp [row]) ?_
    · simp only [members, List.forall_mem_cons]
      exact ⟨.str _, .str _, h.data.isDocument, .str _, .str _, nofun⟩
    · simp only [row, List.forall_mem_cons]
      exact ⟨⟨_, rfl, takes_text _⟩, ⟨_, rfl, takes_text _⟩,
        ⟨_, rfl, takes_any h.data.regular_reparsed⟩, ⟨_, rfl, takes_moment h.createdAt⟩,
        ⟨_, rfl, takes_moment h.updatedAt⟩, nofun⟩
    · simp only [row, fields, List.forall_mem_cons]
      exact ⟨rfl, rfl, rfl, rfl, rfl, nofun⟩
  have hCreated := Instant.readLoose?_text h.createdAt
  have hUpdated := Instant.readLoose?_text h.updatedAt
  unfold Record.read
  rw [show (fileText l).toList = (obj members).pretty.toList from rfl, hRead, Except.map]
  simp [row, ofRow, Row.text, Row.moment, Row.get, timeJson, text?, List.lookup_cons, hCreated,
    hUpdated, Lead.filed, Value.filed]

theorem Product.Storable.read_fileText {p : Product} (h : p.Storable) :
    read (fileText p) = .ok p := by
  rw [Product.read_fileText h.toSourced, h.filed_eq]

theorem Lead.Storable.read_fileText {l : Lead} (h : l.Storable) : read (fileText l) = .ok l := by
  rw [Lead.read_fileText h.toSourced, h.filed_eq]

end Intake
