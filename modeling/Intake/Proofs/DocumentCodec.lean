import Intake.Proofs.Documents
import Intake.Proofs.InstantText
import Intake.Proofs.Members
import Intake.Proofs.Rounding
import Intake.Value.Document

/-! # Values read back from documents

What becomes of a document that is read as a value, written and read again. A wrapper stays what it
is, an object that only resembles one stays an object, and only dates in years that have no four
digits come back as something else.
-/

namespace Intake

namespace Value

/-- The dates at any depth of a value. -/
inductive HasDate (t : Instant) : Value → Prop where
  | here : HasDate t (.date t)
  | item {items : List Value} {v : Value} (present : v ∈ items) (h : HasDate t v) :
    HasDate t (.array items)
  | member {members : List (String × Value)} {m : String × Value} (present : m ∈ members)
    (h : HasDate t m.2) : HasDate t (.object members)

theorem hasDate_date_iff {t s : Instant} : HasDate t (.date s) ↔ t = s := by
  constructor
  · rintro ⟨⟩
    rfl
  · rintro rfl
    exact .here

theorem hasDate_array_iff {t : Instant} {items : List Value} :
    HasDate t (.array items) ↔ ∃ v ∈ items, HasDate t v := by
  constructor
  · rintro (_ | ⟨present, h⟩)
    exact ⟨_, present, h⟩
  · rintro ⟨v, present, h⟩
    exact .item present h

theorem hasDate_object_iff {t : Instant} {members : List (String × Value)} :
    HasDate t (.object members) ↔ ∃ m ∈ members, HasDate t m.2 := by
  constructor
  · rintro (_ | _ | ⟨present, h⟩)
    exact ⟨_, present, h⟩
  · rintro ⟨m, present, h⟩
    exact .member present h

theorem ofItems_eq_map (items : List Json) : ofItems items = items.map ofJson := by
  induction items with
  | nil => rw [ofItems, List.map_nil]
  | cons item rest ih => rw [ofItems, ih, List.map_cons]

theorem toItems_eq_map (items : List Value) : toItems items = items.map toJson := by
  induction items with
  | nil => rw [toItems, List.map_nil]
  | cons item rest ih => rw [toItems, ih, List.map_cons]

theorem ofJsonMembers_eq_map (members : List (String × Json)) :
    ofJsonMembers members = members.map fun m => (m.1, ofJson m.2) := by
  induction members with
  | nil => rw [ofJsonMembers, List.map_nil]
  | cons m rest ih => rw [ofJsonMembers, ih, List.map_cons]

theorem toJsonMembers_eq_map (members : List (String × Value)) :
    toJsonMembers members = members.map fun m => (m.1, toJson m.2) := by
  induction members with
  | nil => rw [toJsonMembers, List.map_nil]
  | cons m rest ih => rw [toJsonMembers, ih, List.map_cons]

theorem ofJson_obj_of_wrapped {members : List (String × Json)} {native : Value}
    (h : wrapped? members = some native) : ofJson (.obj members) = native := by
  rw [ofJson, h]

theorem ofJson_obj_of_plain {members : List (String × Json)} (h : wrapped? members = none) :
    ofJson (.obj members) = .object (members.map fun m => (m.1, ofJson m.2)) := by
  rw [ofJson, h, ofJsonMembers_eq_map]

theorem wrapped?_of_noDollar {members : List (String × Json)}
    (plain : ∀ m ∈ members, m.1.toList.head? ≠ some '$') : wrapped? members = none := by
  match members with
  | [] => rfl
  | [(key, v)] =>
    have hDollar : key.toList.head? ≠ some '$' := plain (key, v) List.mem_cons_self
    have hDate : key ≠ "$date" := by
      rintro rfl
      exact hDollar (by decide)
    have hTimestamp : key ≠ "$timestamp" := by
      rintro rfl
      exact hDollar (by decide)
    rw [wrapped?, if_neg hDate, if_neg hTimestamp]
  | _ :: _ :: _ => rfl

theorem eq_date_of_dateOf? {j : Json} {native : Value} (h : dateOf? j = some native) :
    ∃ t : Instant, native = .date t ∧ t.IsLegal := by
  unfold dateOf? at h
  split at h
  · obtain ⟨t, hRead, rfl⟩ := Option.map_eq_some_iff.mp h
    exact ⟨t, rfl, Instant.isLegal_of_read? hRead⟩
  · split at h
    · obtain ⟨t, hMillis, rfl⟩ := Option.map_eq_some_iff.mp h
      exact ⟨t, rfl, Instant.isLegal_of_ofMillis? hMillis⟩
    · cases h
  · cases h

theorem eq_timestamp_of_timestampOf? {j : Json} {native : Value}
    (h : timestampOf? j = some native) : ∃ t, native = .timestamp t := by
  unfold timestampOf? at h
  split at h
  · simp only [Option.bind_eq_bind, Option.bind_eq_some_iff] at h
    obtain ⟨_, -, time, -, _, -, increment, -, h⟩ := h
    cases h
    exact ⟨⟨time, increment⟩, rfl⟩
  · cases h

/-- A wrapper holds a date or a store timestamp. -/
theorem native_of_wrapped? {members : List (String × Json)} {native : Value}
    (h : wrapped? members = some native) :
    (∃ t : Instant, native = .date t ∧ t.IsLegal) ∨ ∃ t, native = .timestamp t := by
  unfold wrapped? at h
  split at h
  · split at h
    · exact .inl (eq_date_of_dateOf? h)
    · split at h
      · exact .inr (eq_timestamp_of_timestampOf? h)
      · cases h
  · cases h

theorem ofJson_wrapDate_of_year {t : Instant} (legal : t.IsLegal)
    (hYear : 0 ≤ t.day.year ∧ t.day.year ≤ 9999) : ofJson (wrapDate t) = .date t := by
  refine ofJson_obj_of_wrapped ?_
  simp [wrapped?, dateOf?, Instant.read?_text legal hYear]

theorem ofJson_wrapDate_of_not_year {t : Instant}
    (hYear : ¬(0 ≤ t.day.year ∧ t.day.year ≤ 9999)) :
    ofJson (wrapDate t) = .object [("$date", .text (String.ofList t.text))] := by
  rw [wrapDate, ofJson_obj_of_plain]
  · simp [ofJson]
  · simp [wrapped?, dateOf?, Instant.read?_text_eq_none hYear]

theorem word32?_toNat (word : UInt32) : Json.word32? (.int word.toNat) = some word := by
  have hLt : (word.toNat : Int) < 4294967296 := Int.ofNat_lt.mpr word.toNat_lt
  simp [Json.word32?, hLt]

theorem timestampOf?_eq_some {members : List (String × Json)} {first second : Json}
    {time increment : UInt32} (hTime : members.lookup "t" = some first)
    (hFirst : first.word32? = some time) (hIncrement : members.lookup "i" = some second)
    (hSecond : second.word32? = some increment) :
    timestampOf? (.obj members) = some (.timestamp ⟨time, increment⟩) := by
  simp only [timestampOf?, hTime, hFirst, hIncrement, hSecond, Option.bind_eq_bind,
    Option.bind_some]

theorem ofJson_wrapTimestamp (t : StoreTimestamp) : ofJson (wrapTimestamp t) = .timestamp t := by
  refine ofJson_obj_of_wrapped ?_
  rw [wrapped?, if_neg (by decide), if_pos rfl]
  refine timestampOf?_eq_some List.lookup_cons_self (word32?_toNat _) ?_ (word32?_toNat _)
  rw [lookup_cons_of_ne (by decide), List.lookup_cons_self]

/-- A document that is read as a value and written again. -/
def rewritten (j : Json) : Json := (ofJson j).toJson

theorem rewritten_arr (items : List Json) :
    rewritten (.arr items) = .arr (items.map rewritten) := by
  unfold rewritten
  rw [ofJson, toJson, ofItems_eq_map, toItems_eq_map, List.map_map]
  rfl

theorem rewritten_obj_of_plain {members : List (String × Json)} (h : wrapped? members = none) :
    rewritten (.obj members) = .obj (members.map fun m => (m.1, rewritten m.2)) := by
  unfold rewritten
  rw [ofJson_obj_of_plain h, toJson, toJsonMembers_eq_map, List.map_map]
  rfl

theorem rewritten_int_of_lt {n : Int} (h : -2 ^ 63 ≤ n ∧ n < 2 ^ 63) :
    rewritten (.int n) = .int n := by
  rw [rewritten, ofJson, ofInteger, if_pos h, toJson]
  rw [Int64.toInt_ofInt_of_le (by omega) (by omega)]

theorem rewritten_int_of_not {n : Int} (h : ¬(-2 ^ 63 ≤ n ∧ n < 2 ^ 63)) :
    rewritten (.int n) = rewritten (.float (Double.ofInt n)) := by
  rw [rewritten, rewritten, ofJson, ofJson, ofInteger, if_neg h]

/-- A double is written as a double or not at all, so it is read as nothing else. -/
theorem read_rewritten_float {α : Type} {read : Json → Option α} (x : Double)
    (hFloat : ∀ x, read (.float x) = none) (hNull : read .null = none) :
    read (rewritten (.float x)) = none := by
  rw [rewritten, ofJson, toJson]
  split
  · exact hFloat x
  · exact hNull

/-- Wrapped or not, an object is written as an object. -/
theorem rewritten_obj (members : List (String × Json)) :
    ∃ members', rewritten (.obj members) = .obj members' := by
  cases h : wrapped? members with
  | none => exact ⟨_, rewritten_obj_of_plain h⟩
  | some native =>
    rw [rewritten, ofJson_obj_of_wrapped h]
    rcases native_of_wrapped? h with ⟨t, rfl, -⟩ | ⟨t, rfl⟩
    · exact ⟨_, rfl⟩
    · exact ⟨_, rfl⟩

/-- Only an integer of 64 bits with a sign is written as an integer again. -/
theorem word32?_rewritten (j : Json) : (rewritten j).word32? = j.word32? := by
  cases j with
  | int n =>
    by_cases h : -2 ^ 63 ≤ n ∧ n < 2 ^ 63
    · rw [rewritten_int_of_lt h]
    · have hLarge : Json.word32? (.int n) = none := if_neg (by omega)
      rw [rewritten_int_of_not h, hLarge]
      exact read_rewritten_float _ (fun _ => rfl) rfl
  | float x => exact read_rewritten_float x (fun _ => rfl) rfl
  | obj members =>
    obtain ⟨members', h⟩ := rewritten_obj members
    rw [h]
    rfl
  | _ => rfl

theorem dateOf?_rewritten {j : Json} (h : dateOf? j = none) : dateOf? (rewritten j) = none := by
  cases j with
  | int n =>
    by_cases hSigned : -2 ^ 63 ≤ n ∧ n < 2 ^ 63
    · rwa [rewritten_int_of_lt hSigned]
    · rw [rewritten_int_of_not hSigned]
      exact read_rewritten_float _ (fun _ => rfl) rfl
  | float x => exact read_rewritten_float x (fun _ => rfl) rfl
  | obj members =>
    obtain ⟨members', h⟩ := rewritten_obj members
    rw [h]
    rfl
  | arr items => rw [rewritten_arr]; rfl
  | _ => exact h

theorem timestampOf?_eq_none {key : String} {value : Json} (hTime : "t" ≠ key) :
    timestampOf? (.obj [(key, value)]) = none := by
  have hLookup : [(key, value)].lookup "t" = none := by
    rw [lookup_cons_of_ne hTime, List.lookup_nil]
  rw [timestampOf?, hLookup]
  rfl

theorem timestampOf?_rewritten {j : Json} (h : timestampOf? j = none) :
    timestampOf? (rewritten j) = none := by
  cases j with
  | int n =>
    by_cases hSigned : -2 ^ 63 ≤ n ∧ n < 2 ^ 63
    · rwa [rewritten_int_of_lt hSigned]
    · rw [rewritten_int_of_not hSigned]
      exact read_rewritten_float _ (fun _ => rfl) rfl
  | float x => exact read_rewritten_float x (fun _ => rfl) rfl
  | arr items => rw [rewritten_arr]; rfl
  | obj members =>
    cases hWrapped : wrapped? members with
    | some native =>
      rw [rewritten, ofJson_obj_of_wrapped hWrapped]
      rcases native_of_wrapped? hWrapped with ⟨t, rfl, -⟩ | ⟨t, rfl⟩
      · exact timestampOf?_eq_none (by decide)
      · exact timestampOf?_eq_none (by decide)
    | none =>
      rw [rewritten_obj_of_plain hWrapped, ← h]
      simp only [timestampOf?, lookup_map_values]
      cases members.lookup "t" with
      | none => rfl
      | some first =>
        cases members.lookup "i" with
        | none => simp
        | some second => simp [word32?_rewritten]
  | _ => exact h

/-- An object that is no wrapper is not written as one. -/
theorem wrapped?_rewritten {members : List (String × Json)} (h : wrapped? members = none) :
    wrapped? (members.map fun m => (m.1, rewritten m.2)) = none := by
  match members with
  | [] => rfl
  | [(key, value)] =>
    rw [wrapped?] at h
    simp only [List.map_cons, List.map_nil]
    rw [wrapped?]
    by_cases hDate : key = "$date"
    · rw [if_pos hDate] at h ⊢
      exact dateOf?_rewritten h
    · rw [if_neg hDate] at h ⊢
      by_cases hTimestamp : key = "$timestamp"
      · rw [if_pos hTimestamp] at h ⊢
        exact timestampOf?_rewritten h
      · rw [if_neg hTimestamp]
  | _ :: _ :: _ => rfl

/-- Whether a value comes back when it is written and read, and whether its document is stable. -/
structure Returns (v : Value) : Prop where
  read_iff : ofJson v.toJson = v ↔ ∀ t, v.HasDate t → 0 ≤ t.day.year ∧ t.day.year ≤ 9999
  stable : (ofJson v.toJson).toJson = v.toJson

theorem Returns.of_read {v : Value} (h : ofJson v.toJson = v) (dateless : ∀ t, ¬v.HasDate t) :
    v.Returns :=
  ⟨⟨fun _ t hDate => absurd hDate (dateless t), fun _ => h⟩, congrArg toJson h⟩

theorem returns_date {t : Instant} (legal : t.IsLegal) : (date t).Returns := by
  by_cases hYear : 0 ≤ t.day.year ∧ t.day.year ≤ 9999
  · have hRead : ofJson (date t).toJson = date t := ofJson_wrapDate_of_year legal hYear
    refine ⟨⟨fun _ s hDate => ?_, fun _ => hRead⟩, congrArg toJson hRead⟩
    rw [hasDate_date_iff.mp hDate]
    exact hYear
  · have hRead : ofJson (date t).toJson = object [("$date", text (String.ofList t.text))] :=
      ofJson_wrapDate_of_not_year hYear
    refine ⟨⟨fun hSame => ?_, fun hYears => absurd (hYears t .here) hYear⟩, ?_⟩
    · rw [hRead] at hSame
      cases hSame
    · rw [hRead]
      rfl

theorem returns_array {items : List Value} (each : ∀ v ∈ items, v.Returns) :
    (array items).Returns := by
  have hWritten : (array items).toJson = .arr (items.map toJson) := by
    rw [toJson, toItems_eq_map]
  have hRead : ofJson (array items).toJson = array (items.map fun v => ofJson v.toJson) := by
    rw [hWritten, ofJson, ofItems_eq_map, List.map_map]
    rfl
  constructor
  · rw [hRead, array.injEq, map_eq_self_iff]
    simp only [hasDate_array_iff]
    constructor
    · rintro hSame t ⟨v, hv, hDate⟩
      exact (each v hv).read_iff.mp (hSame v hv) t hDate
    · intro hYears v hv
      exact (each v hv).read_iff.mpr fun t hDate => hYears t ⟨v, hv, hDate⟩
  · rw [hRead, hWritten, toJson, toItems_eq_map, List.map_map, Json.arr.injEq,
      List.map_inj_left]
    intro v hv
    exact (each v hv).stable

/-- An object that is not written as a wrapper comes back as its members do. -/
theorem returns_object {members : List (String × Value)}
    (plain : wrapped? (toJsonMembers members) = none) (each : ∀ m ∈ members, m.2.Returns) :
    (object members).Returns := by
  have hWritten : (object members).toJson = .obj (members.map fun m => (m.1, m.2.toJson)) := by
    rw [toJson, toJsonMembers_eq_map]
  have hRead : ofJson (object members).toJson =
      object (members.map fun m => (m.1, ofJson m.2.toJson)) := by
    rw [toJsonMembers_eq_map] at plain
    rw [hWritten, ofJson_obj_of_plain plain, List.map_map]
    rfl
  constructor
  · rw [hRead, object.injEq, map_eq_self_iff]
    simp only [hasDate_object_iff, Prod.ext_iff, true_and]
    constructor
    · rintro hSame t ⟨m, hm, hDate⟩
      exact (each m hm).read_iff.mp (hSame m hm) t hDate
    · intro hYears m hm
      exact (each m hm).read_iff.mpr fun t hDate => hYears t ⟨m, hm, hDate⟩
  · rw [hRead, hWritten, toJson, toJsonMembers_eq_map, List.map_map, Json.obj.injEq,
      List.map_inj_left]
    intro m hm
    exact congrArg (Prod.mk m.1) (each m hm).stable

theorem returns_float {x : Double} (finite : x.isFinite = true) : (float x).Returns := by
  refine .of_read ?_ nofun
  rw [toJson, if_pos finite, ofJson]

theorem returns_ofJson {j : Json} (document : j.IsDocument) : (ofJson j).Returns := by
  -- Values are not closed under the codec, so the induction is on the document they come from.
  induction document with
  | null => exact .of_read rfl nofun
  | bool b => exact .of_read rfl nofun
  | str s => exact .of_read rfl nofun
  | @int n lower upper =>
    by_cases hSigned : -2 ^ 63 ≤ n ∧ n < 2 ^ 63
    · have hSame : ofJson (.int n) = int (Int64.ofInt n) := by
        rw [ofJson, ofInteger, if_pos hSigned]
      have hWritten : rewritten (.int n) = .int n := rewritten_int_of_lt hSigned
      exact .of_read (congrArg ofJson hWritten) (hSame ▸ nofun)
    · have hFinite : (Double.ofInt n).isFinite = true := Double.isFinite_ofInt (by omega)
      rw [ofJson, ofInteger, if_neg hSigned]
      exact returns_float hFinite
  | float finite => exact returns_float finite
  | arr each ih =>
    rw [ofJson, ofItems_eq_map]
    exact returns_array (List.forall_mem_map.mpr ih)
  | @obj members each ih =>
    cases h : wrapped? members with
    | some native =>
      rw [ofJson_obj_of_wrapped h]
      rcases native_of_wrapped? h with ⟨t, rfl, legal⟩ | ⟨t, rfl⟩
      · exact returns_date legal
      · exact .of_read (ofJson_wrapTimestamp t) nofun
    | none =>
      rw [ofJson_obj_of_plain h]
      refine returns_object ?_ (List.forall_mem_map.mpr ih)
      rw [toJsonMembers_eq_map, List.map_map]
      exact wrapped?_rewritten h

end Value

/-- A document gives a value that comes back when it is written and read, with the order of its
members and its integers apart from its doubles, exactly if every date in it lies in a year of four
digits. What is written stays the same in any case. -/
theorem Value.ofJson_toJson_eq_iff {j : Json} (document : j.IsDocument) :
    let v := ofJson j
    (ofJson v.toJson = v ↔ ∀ t, v.HasDate t → 0 ≤ t.day.year ∧ t.day.year ≤ 9999) ∧
      (ofJson v.toJson).toJson = v.toJson := by
  intro v
  have hReturns : v.Returns := returns_ofJson document
  exact ⟨hReturns.read_iff, hReturns.stable⟩

/-- The count of thousandths is that of the start of the year 10000. -/
theorem Value.ofJson_toJson_year_10000 :
    let j : Json := .arr [.obj [("$date", .str "next tuesday")],
      .obj [("$date", .int 253402300800000)]]
    j.IsDocument ∧ ofJson (ofJson j).toJson ≠ ofJson j ∧
      (ofJson (ofJson j).toJson).toJson = (ofJson j).toJson := by
  intro j
  have hDocument : j.IsDocument := by
    refine .arr fun item hItem => ?_
    simp only [List.mem_cons, List.not_mem_nil, or_false] at hItem
    rcases hItem with rfl | rfl
    · refine .obj fun m hm => ?_
      rw [List.mem_singleton.mp hm]
      exact .str _
    · refine .obj fun m hm => ?_
      rw [List.mem_singleton.mp hm]
      exact .int (by decide) (by decide)
  obtain ⟨hRead, hStable⟩ := ofJson_toJson_eq_iff hDocument
  have hDate : (ofJson j).HasDate ⟨253402300800, 0⟩ :=
    hasDate_array_iff.mpr
      ⟨.date ⟨253402300800, 0⟩, List.mem_cons_of_mem _ List.mem_cons_self, .here⟩
  refine ⟨hDocument, fun hSame => ?_, hStable⟩
  have hYear := (hRead.mp hSame _ hDate).2
  revert hYear
  decide

end Intake
