import Intake.Proofs.Conformance
import Intake.Proofs.DateLayouts
import Intake.Proofs.DocumentCodec

/-! # Written dates and their readers

Texts of dates have two readers, that of documents and that of fields. A date that is written in a
year of four digits is the same instant for both, and in any other year for neither. A text in one
of the layouts of documents is the same instant for both as well.
-/

namespace Intake

namespace Instant

open Text

variable {text rest : List Char} {time : TimeOfDay} {offset : Int} {t : Instant}

theorem FractionText.nano_lt {fraction : List Char} {nano : Nat} (h : FractionText fraction nano) :
    nano < 1000000000 := by
  cases h with
  | none => decide
  | digits _ digits =>
    refine Nat.div_lt_of_lt_mul (Nat.mul_lt_mul_of_pos_right (digitsFrom_lt digits) ?_)
    exact Nat.pow_pos (by decide)

theorem TimeText.nano_lt (h : TimeText rest time offset) : time.nano < 1000000000 := by
  cases h with
  | midnight => decide
  | zoneless _ whole => exact whole ▸ by decide
  | zoned fraction _ => exact fraction.nano_lt

theorem TimeText.offset_mod (h : TimeText rest time offset) : offset % 60 = 0 := by
  cases h with
  | midnight | zoneless => rfl
  | zoned _ zone => cases zone <;> omega

theorem isLegal_of_names (h : Names text t) : t.IsLegal := by
  obtain ⟨day, rest, time, offset, -, -, behind, h⟩ := names_iff.mp h
  exact isLegal_of_ofLocal? behind.nano_lt behind.offset_mod h

theorem FractionText.padded {width n : Nat} (hWidth : 0 < width ∧ width ≤ 9)
    (h : n < 10 ^ width) :
    FractionText ('.' :: padded width (decimal n)) (n * 10 ^ (9 - width)) := by
  have hLength : (Text.padded width (decimal n)).length = width := length_padded hWidth.1 h
  have hDigits : (Text.padded width (decimal n)).all isDigit = true :=
    List.all_eq_true.mpr fun _ => isDigit_of_mem_padded
  have hValue : n * 10 ^ 9 / 10 ^ width = n * 10 ^ (9 - width) := by
    refine Nat.div_eq_of_eq_mul_left (Nat.pow_pos (by decide)) ?_
    rw [Nat.mul_assoc, ← Nat.pow_add, Nat.sub_add_cancel hWidth.2]
  have hRun := FractionText.digits padded_ne_nil hDigits
  rwa [digitsFrom_padded, hLength, hValue] at hRun

/-- Whatever number of digits is written, they are the nanoseconds. -/
theorem fractionText_tells {nano : Nat} (h : nano < 1000000000) :
    FractionText (fractionText nano) nano := by
  unfold fractionText
  split
  · next hZero =>
    rw [hZero]
    exact .none
  · split
    · next hMillis =>
      have hRun : FractionText ('.' :: padded 3 (decimal (nano / 1000000)))
          (nano / 1000000 * 10 ^ (9 - 3)) := .padded (by decide) (by omega)
      rwa [show nano / 1000000 * 10 ^ (9 - 3) = nano by omega] at hRun
    · split
      · next hMicros =>
        have hRun : FractionText ('.' :: padded 6 (decimal (nano / 1000)))
            (nano / 1000 * 10 ^ (9 - 6)) := .padded (by decide) (by omega)
        rwa [show nano / 1000 * 10 ^ (9 - 6) = nano by omega] at hRun
      · have hRun : FractionText ('.' :: padded 9 (decimal nano)) (nano * 10 ^ (9 - 9)) :=
          .padded (by decide) h
        rwa [show nano * 10 ^ (9 - 9) = nano by omega] at hRun

theorem names_text (legal : t.IsLegal) (year : 0 ≤ t.day.year ∧ t.day.year ≤ 9999) :
    Names t.text t := by
  have hText : t.text = dayText t.day ++ ('T' :: (clockText t.timeOfDay ++
      (fractionText t.timeOfDay.nano ++ ['Z']))) := by
    simp [Instant.text]
  have hFraction : FractionText (fractionText t.timeOfDay.nano) t.timeOfDay.nano :=
    fractionText_tells (nano_timeOfDay_lt legal)
  exact names_iff.mpr
    ⟨_, _, _, _, hText, year, .zoned hFraction .universal, ofLocal?_timeOfDay legal⟩

theorem ofDateText?_eq_some_iff : ofDateText? text = some t ↔ Names text t :=
  findSome?_eq_some_iff_names DateLayout.mem_all

/-- A text that does not begin with a day names no instant. -/
theorem ofDateText?_eq_none (h : readDay? text = none) : ofDateText? text = none := by
  refine Option.eq_none_iff_forall_ne_some.mpr fun u hRead => ?_
  obtain ⟨day, rest, time, offset, rfl, year, -, hLocal⟩ :=
    names_iff.mp (ofDateText?_eq_some_iff.mp hRead)
  obtain ⟨⟨real, -⟩, -⟩ := ofLocal?_eq_some_iff.mp hLocal
  rw [readDay?_dayText (CalendarDay.fitsDigits_of_isReal real year)] at h
  cases h

end Instant

namespace Value

variable {s : String} {t : Instant}

theorem ofJson_dateText (h : Instant.read? s.toList = some t) :
    ofJson (.obj [("$date", .str s)]) = .date t := by
  refine ofJson_obj_of_wrapped ?_
  simp [wrapped?, dateOf?, h]

theorem isLegal_of_ofJson {j : Json} (h : ofJson j = .date t) : t.IsLegal := by
  cases j with
  | obj members =>
    cases hWrapped : wrapped? members with
    | none =>
      rw [ofJson_obj_of_plain hWrapped] at h
      cases h
    | some native =>
      rw [ofJson_obj_of_wrapped hWrapped] at h
      rcases native_of_wrapped? hWrapped with ⟨u, rfl, legal⟩ | ⟨u, rfl⟩
      · cases h
        exact legal
      · cases h
  | int n =>
    rw [ofJson, ofInteger] at h
    split at h <;> cases h
  | null | bool | float | str | arr => cases h

theorem isLegal_of_classify (h : classify .date (.text s) = .ok (.date t)) : t.IsLegal := by
  cases classify_eq_ok_iff.mp h with
  | dateText h => exact Instant.isLegal_of_names (Instant.ofDateText?_eq_some_iff.mp h)

theorem toJson_date (t : Instant) :
    toJson (.date t) = .obj [("$date", .str (String.ofList t.text))] := rfl

/-- The text of a date, in a year of four digits, is read as that date in a field and in a
document, leap seconds and fractions included. In any other year neither takes it, and in a document
the wrapper stays an object. Text in the first two layouts is the same date for both. No reader
gives a date that is not legal. -/
theorem date_readers_agree :
    (∀ t : Instant, t.IsLegal → 0 ≤ t.day.year ∧ t.day.year ≤ 9999 →
      ∃ s, toJson (.date t) = .obj [("$date", .str s)] ∧
        classify .date (.text s) = .ok (.date t) ∧ ofJson (toJson (.date t)) = .date t) ∧
    (∀ t : Instant, ¬(0 ≤ t.day.year ∧ t.day.year ≤ 9999) →
      ∃ s, toJson (.date t) = .obj [("$date", .str s)] ∧
        classify .date (.text s) = .error .invalidDateText ∧
        ofJson (toJson (.date t)) = .object [("$date", .text s)]) ∧
    (∀ (layout : DateLayout) (s : String) (t : Instant),
      layout = .rfc3339 ∨ layout = .rfc3339Fractional → layout.read? s.toList = some t →
        classify .date (.text s) = .ok (.date t) ∧
        ofJson (.obj [("$date", .str s)]) = .date t) ∧
    (∀ s t, classify .date (.text s) = .ok (.date t) → t.IsLegal) ∧
    ∀ j t, ofJson j = .date t → t.IsLegal := by
  refine ⟨fun t legal year => ?_, fun t noYear => ?_, fun layout s t hLayout h => ?_,
    fun _ _ => isLegal_of_classify, fun _ _ => isLegal_of_ofJson⟩
  · have hNamed : Instant.ofDateText? (String.ofList t.text).toList = some t := by
      rw [String.toList_ofList]
      exact Instant.ofDateText?_eq_some_iff.mpr (Instant.names_text legal year)
    exact ⟨_, toJson_date t, classify_of_classifies (.dateText hNamed),
      ofJson_wrapDate_of_year legal year⟩
  · have hNone : Instant.ofDateText? t.text = none :=
      Instant.ofDateText?_eq_none (Instant.readDay?_text_eq_none noYear)
    refine ⟨_, toJson_date t, ?_, ofJson_wrapDate_of_not_year noYear⟩
    simp [classify, classifyPresent, Classified.dateOfText, hNone]
  · have hNamed : Instant.ofDateText? s.toList = some t :=
      Instant.ofDateText?_eq_some_iff.mpr (DateLayout.names_of_layout h)
    refine ⟨classify_of_classifies (.dateText hNamed), ofJson_dateText ?_⟩
    -- Both layouts are read by the reader of documents, once the shape is settled.
    unfold DateLayout.read? at h
    split at h
    · rcases hLayout with rfl | rfl <;> exact h
    · cases h

/-- Half a second into a leap second, the start of the year 10000, and a leap second behind
universal time. -/
theorem date_readers_agree_leap_seconds :
    let t : Instant := ⟨1735689599, 1500000000⟩
    let later : Instant := ⟨253402300800, 0⟩
    let behind : Instant := ⟨1735691399, 1250000000⟩
    (t.IsLegal ∧ 0 ≤ t.day.year ∧ t.day.year ≤ 9999 ∧
      classify .date (.text "2024-12-31T23:59:60.500Z") = .ok (.date t) ∧
      ofJson (.obj [("$date", .str "2024-12-31T23:59:60.500Z")]) = .date t) ∧
    (later.day.year = 10000 ∧
      classify .date (.text "+10000-01-01T00:00:00Z") = .error .invalidDateText ∧
      ofJson (.obj [("$date", .str "+10000-01-01T00:00:00Z")]) =
        .object [("$date", .text "+10000-01-01T00:00:00Z")]) ∧
    classify .date (.text "2024-12-31T23:59:60.25-00:30") = .ok (.date behind) ∧
    ofJson (.obj [("$date", .str "2024-12-31T23:59:60.25-00:30")]) = .date behind := by
  intro t later behind
  obtain ⟨hWithin, hBeyond, hLayouts, -⟩ := date_readers_agree
  have hLegal : t.IsLegal := ⟨by decide +kernel, by decide, by decide⟩
  have hYear : 0 ≤ t.day.year ∧ t.day.year ≤ 9999 := by decide +kernel
  have hLater : later.day.year = 10000 := by decide +kernel
  have hText : String.ofList t.text = "2024-12-31T23:59:60.500Z" := by decide +kernel
  have hLaterText : String.ofList later.text = "+10000-01-01T00:00:00Z" := by decide +kernel
  have hRead : DateLayout.rfc3339Fractional.read? "2024-12-31T23:59:60.25-00:30".toList =
      some behind := by decide +kernel
  obtain ⟨s, hWritten, hField, hDocument⟩ := hWithin t hLegal hYear
  obtain ⟨s', hWritten', hField', hDocument'⟩ := hBeyond later (by omega)
  rw [toJson_date, hText] at hWritten hDocument
  rw [toJson_date, hLaterText] at hWritten' hDocument'
  cases hWritten
  cases hWritten'
  exact ⟨⟨hLegal, hYear.1, hYear.2, hField, hDocument⟩, ⟨hLater, hField', hDocument'⟩,
    hLayouts _ _ _ (.inr rfl) hRead⟩

end Value

end Intake
