import Intake.Proofs.DateText

/-! # The layouts together

A text is read in some layout exactly where it names an instant, and as the instant that it names.
So the order in which the layouts are tried does not matter.
-/

namespace Intake

namespace DateLayout

open Text Instant

variable {text rest tail model : List Char} {m c separator : Char} {day : CalendarDay}
  {time : TimeOfDay} {t : Instant}

theorem follows?_append (front back text : List Char) :
    follows? (front ++ back) text = (follows? front text).bind (follows? back) := by
  induction front generalizing text with
  | nil => rw [List.nil_append, follows?, Option.bind_some]
  | cons m front ih =>
    cases text with
    | nil => rfl
    | cons c text =>
      rw [List.cons_append, follows?, follows?, ih]
      split <;> split <;> rfl

theorem follows?_digits {run : List Char} (digits : run.all isDigit = true) (rest : List Char) :
    follows? (List.replicate run.length '9') (run ++ rest) = some rest := by
  induction run with
  | nil => rfl
  | cons c run ih =>
    rw [List.all_cons, Bool.and_eq_true] at digits
    rw [List.length_cons, List.replicate_succ, List.cons_append, follows?, if_pos rfl,
      if_pos digits.1, ih digits.2]

theorem follows?_padded {width n : Nat} (hWidth : 0 < width) (h : n < 10 ^ width)
    (rest : List Char) :
    follows? (List.replicate width '9') (padded width (decimal n) ++ rest) = some rest := by
  have hDigits : (padded width (decimal n)).all isDigit = true :=
    List.all_eq_true.mpr fun _ => isDigit_of_mem_padded
  have hRun := follows?_digits hDigits rest
  rwa [length_padded hWidth h] at hRun

theorem follows?_mark (hMark : m ≠ '9') :
    follows? (m :: model) (c :: text) = if c = m then follows? model text else none := by
  simp [follows?, hMark]

theorem follows?_dayText (fits : day.FitsDigits) (rest : List Char) :
    follows? dayModel (dayText day ++ rest) = some rest := by
  have hModel : dayModel = List.replicate 4 '9' ++ '-' :: (List.replicate 2 '9' ++
      '-' :: List.replicate 2 '9') := by decide
  have hText := dayText_append fits rest
  obtain ⟨hYear, hMonth, hDay⟩ := fits
  rw [hModel, hText, follows?_append, follows?_padded (by decide) (by omega), Option.bind_some,
    follows?_mark (by decide), if_pos rfl, follows?_append, follows?_padded (by decide) hMonth,
    Option.bind_some, follows?_mark (by decide), if_pos rfl, follows?_padded (by decide) hDay]

theorem follows?_clockText (fits : time.FitsDigits) (rest : List Char) :
    follows? clockModel (clockText time ++ rest) = some rest := by
  have hModel : clockModel = List.replicate 2 '9' ++ ':' :: (List.replicate 2 '9' ++
      ':' :: List.replicate 2 '9') := by decide
  obtain ⟨hHour, hMinute, hSecond⟩ := fits
  rw [hModel, clockText_append, follows?_append, follows?_padded (by decide) hHour,
    Option.bind_some, follows?_mark (by decide), if_pos rfl, follows?_append,
    follows?_padded (by decide) hMinute, Option.bind_some, follows?_mark (by decide), if_pos rfl,
    follows?_padded (by decide) hSecond]

theorem isDayAndClock_dayText {condition : List Char → Bool} (fits : day.FitsDigits)
    (fits' : time.FitsDigits) (hSeparator : separator ≠ '9') :
    isDayAndClock separator condition (dayText day ++ c :: (clockText time ++ tail)) =
      (decide (c = separator) && condition tail) := by
  rw [isDayAndClock, follows?_append, follows?_dayText fits, Option.bind_some,
    follows?_mark hSeparator, follows?_clockText fits']
  by_cases h : c = separator
  · simp [h]
  · simp [h]

/-- A zone is the letter or begins with a sign. -/
theorem isZone_cases (h : isZone text = true) :
    text = ['Z'] ∨ ∃ tail, text = '+' :: tail ∨ text = '-' :: tail := by
  have hSigned {sign : Char} (hSign : sign ≠ '9')
      (h : follows? (offsetModel sign) text = some []) : ∃ tail, text = sign :: tail := by
    cases text with
    | nil => cases h
    | cons c tail =>
      rw [offsetModel, follows?_mark hSign] at h
      split at h
      · next hc => exact ⟨tail, hc ▸ rfl⟩
      · cases h
  simp only [isZone, isOffset, Bool.or_eq_true, decide_eq_true_eq] at h
  rcases h with h | h | h
  · exact .inl h
  · exact .inr ((hSigned (by decide) h).imp fun _ => .inl)
  · exact .inr ((hSigned (by decide) h).imp fun _ => .inr)

theorem reading_of_isZone (h : isZone text = true) :
    text.takeWhile isDigit = [] ∧ optionalFraction? text = some (0, text) := by
  obtain rfl | ⟨tail, rfl | rfl⟩ := isZone_cases h
  all_goals exact ⟨rfl, rfl⟩

theorem zoneText_of_isZone {offset : Int} (h : isZone text = true)
    (reading : offset? (exactly? ':') text = some (offset, []))
    (near : offset.natAbs ≤ greatestOffset) : ZoneText text offset := by
  unfold greatestOffset at near
  obtain rfl | ⟨tail, rfl | rfl⟩ := isZone_cases h
  · cases reading
    exact .universal
  · obtain ⟨hours, minutes, ⟨-, hMinutes⟩, rfl, rfl⟩ :=
      (offset?_signed_iff fun _ => rfl).mp reading
    rw [Int.one_mul] at *
    exact .ahead (by omega) hMinutes
  · obtain ⟨hours, minutes, ⟨-, hMinutes⟩, rfl, rfl⟩ :=
      (offset?_signed_iff fun _ => rfl).mp reading
    rw [Int.neg_one_mul] at *
    exact .behind (by omega) hMinutes

theorem follows?_offset {sign : Char} {hours minutes : Nat} (hSign : sign ≠ '9')
    (hHours : hours ≤ 23) (hMinutes : minutes ≤ 59) :
    follows? (offsetModel sign) (sign :: (twoDigits hours ++ ':' :: twoDigits minutes)) =
      some [] := by
  have hModel : offsetModel sign = sign :: (List.replicate 2 '9' ++
      ':' :: List.replicate 2 '9') := rfl
  have hLast : follows? (List.replicate 2 '9') (padded 2 (decimal minutes) ++ []) = some [] :=
    follows?_padded (by decide) (by omega) []
  rw [List.append_nil] at hLast
  rw [hModel, follows?_mark hSign, if_pos rfl, follows?_append, twoDigits, twoDigits,
    follows?_padded (by decide) (by omega), Option.bind_some, follows?_mark (by decide),
    if_pos rfl, hLast]

theorem isZone_of_zoneText {offset : Int} (h : ZoneText text offset) : isZone text = true := by
  simp only [isZone, isOffset, Bool.or_eq_true, decide_eq_true_eq]
  cases h with
  | universal => exact .inl rfl
  | ahead h m => exact .inr (.inl (follows?_offset (by decide) h m))
  | behind h m => exact .inr (.inr (follows?_offset (by decide) h m))

/-- What is read behind a clock is an optional fraction and a zone. -/
theorem fraction_and_zone {nano : Nat} {offset : Int}
    (shape : isZone tail = true ∨ isFractionAndZone tail = true)
    (fraction : optionalFraction? tail = some (nano, rest))
    (zone : offset? (exactly? ':') rest = some (offset, []))
    (near : offset.natAbs ≤ greatestOffset) :
    ∃ front, tail = front ++ rest ∧ FractionText front nano ∧ ZoneText rest offset := by
  rcases shape with shape | shape
  · rw [(reading_of_isZone shape).2] at fraction
    cases fraction
    exact ⟨[], rfl, .none, zoneText_of_isZone shape zone near⟩
  · unfold isFractionAndZone at shape
    split at shape
    · next text =>
      rw [Bool.and_eq_true, decide_eq_true_eq] at shape
      have hDigits : (text.takeWhile isDigit).all isDigit = true := List.all_takeWhile
      have hRead := fraction?_of_run shape.1 hDigits (reading_of_isZone shape.2).1
      rw [List.takeWhile_append_dropWhile] at hRead
      rw [optionalFraction?, hRead] at fraction
      cases fraction
      refine ⟨'.' :: text.takeWhile isDigit, ?_, .digits shape.1 hDigits,
        zoneText_of_isZone shape.2 zone near⟩
      rw [List.cons_append, List.takeWhile_append_dropWhile]
    · cases shape

theorem separator?_eq_some (h : separator? text = some rest) : ∃ c, text = c :: rest := by
  unfold separator? at h
  split at h
  all_goals cases h
  all_goals exact ⟨_, rfl⟩

/-- What the readers of a day and a clock leave is what the shape sets a condition on. -/
theorem parts_of_dayAndClock {condition : List Char → Bool} {afterDay afterMark : List Char}
    {hour minute second : Nat} (hNine : separator ≠ '9')
    (shape : isDayAndClock separator condition text = true)
    (dayRead : readDay? text = some (day, afterDay)) (mark : separator? afterDay = some afterMark)
    (clock : readClock? afterMark = some (hour, minute, second, tail)) (nano : Nat) :
    day.FitsDigits ∧ condition tail = true ∧
      text = dayText day ++ separator :: (clockText ⟨hour, minute, second, nano⟩ ++ tail) := by
  obtain ⟨fits, rfl⟩ := readDay?_eq_some_iff.mp dayRead
  obtain ⟨c, rfl⟩ := separator?_eq_some mark
  obtain ⟨fits', rfl⟩ := readClock?_eq_some clock nano
  rw [isDayAndClock_dayText fits fits' hNine, Bool.and_eq_true, decide_eq_true_eq] at shape
  obtain ⟨rfl, hTail⟩ := shape
  exact ⟨fits, hTail, rfl⟩

theorem names_of_read? {condition : List Char → Bool}
    (hCondition : ∀ tail, condition tail = true →
      isZone tail = true ∨ isFractionAndZone tail = true)
    (shape : isDayAndClock 'T' condition text = true) (h : Instant.read? text = some t) :
    Names text t := by
  simp only [Instant.read?, Option.bind_eq_bind, Option.bind_eq_some_iff] at h
  obtain ⟨⟨day, _⟩, hDay, _, hMark, ⟨hour, minute, second, tail⟩, hClock, ⟨nano, zone⟩,
    hFraction, ⟨offset, _⟩, hOffset, h⟩ := h
  obtain ⟨fits, hTail, rfl⟩ := parts_of_dayAndClock (by decide) shape hDay hMark hClock nano
  split at h
  · next hEnd =>
    obtain ⟨rfl, near⟩ := hEnd
    obtain ⟨front, rfl, fraction, zone⟩ :=
      fraction_and_zone (hCondition tail hTail) hFraction hOffset near
    exact names_iff.mpr ⟨_, _, _, _, rfl, fits.year, .zoned fraction zone, h⟩
  · cases h

theorem names_of_readZoneless? (hSeparator : separator = ' ' ∨ separator = 'T')
    (shape : isDayAndClock separator List.isEmpty text = true) (h : readZoneless? text = some t) :
    Names text t := by
  have hNine : separator ≠ '9' := by rcases hSeparator with rfl | rfl <;> decide
  simp only [readZoneless?, Option.bind_eq_bind, Option.bind_eq_some_iff] at h
  obtain ⟨⟨day, _⟩, hDay, _, hMark, ⟨hour, minute, second, tail⟩, hClock, h⟩ := h
  obtain ⟨fits, -, rfl⟩ := parts_of_dayAndClock hNine shape hDay hMark hClock 0
  split at h
  · next hEnd =>
    obtain rfl := hEnd
    rw [List.append_nil]
    exact names_iff.mpr ⟨_, _, _, _, rfl, fits.year, .zoneless hSeparator rfl, h⟩
  · cases h

theorem names_of_readDateOnly? (h : readDateOnly? text = some t) : Names text t := by
  simp only [readDateOnly?, Option.bind_eq_bind, Option.bind_eq_some_iff] at h
  obtain ⟨⟨day, rest⟩, hDay, h⟩ := h
  obtain ⟨fits, rfl⟩ := readDay?_eq_some_iff.mp hDay
  split at h
  · next hEnd =>
    obtain rfl := hEnd
    exact names_iff.mpr ⟨_, _, _, _, rfl, fits.year, .midnight, h⟩
  · cases h

theorem names_of_layout {layout : DateLayout} (h : layout.read? text = some t) : Names text t := by
  unfold DateLayout.read? at h
  split at h
  · next shape =>
    cases layout with
    | rfc3339 => exact names_of_read? (fun _ => .inl) shape h
    | rfc3339Fractional => exact names_of_read? (fun _ => .inr) shape h
    | dateOnly => exact names_of_readDateOnly? h
    | spaceSeparated => exact names_of_readZoneless? (.inl rfl) shape h
    | noZone => exact names_of_readZoneless? (.inr rfl) shape h
    | numericOffset =>
      refine names_of_read? (fun tail hOffset => .inl ?_) shape h
      rw [isZone, hOffset, Bool.or_true]
  · cases h

theorem read?_zoned {fraction zone : List Char} {offset : Int} (fits : day.FitsDigits)
    (fits' : time.FitsDigits) (f : FractionText fraction time.nano) (z : ZoneText zone offset) :
    Instant.read? (dayText day ++ 'T' :: (clockText time ++ (fraction ++ zone))) =
      ofLocal? day time offset := by
  rw [Instant.read?, readDay?_dayText fits]
  simp only [Option.bind_eq_bind, Option.bind_some, separator?]
  rw [readClock?_clockText fits']
  simp only [Option.bind_some]
  rw [f.reading z]
  simp only [Option.bind_some]
  rw [z.reading.2.2]
  exact if_pos ⟨rfl, z.near⟩

theorem readZoneless?_dayText (fits : day.FitsDigits) (fits' : time.FitsDigits)
    (hSeparator : separator = ' ' ∨ separator = 'T') (whole : time.nano = 0) :
    readZoneless? (dayText day ++ separator :: clockText time) = ofLocal? day time 0 := by
  have hMark (rest : List Char) : separator? (separator :: rest) = some rest := by
    rcases hSeparator with rfl | rfl <;> rfl
  have hClock := readClock?_clockText fits' []
  rw [List.append_nil] at hClock
  rw [readZoneless?, readDay?_dayText fits]
  simp only [Option.bind_eq_bind, Option.bind_some, hMark, hClock, if_true, ← whole]

theorem readDateOnly?_dayText (fits : day.FitsDigits) :
    readDateOnly? (dayText day) = ofLocal? day ⟨0, 0, 0, 0⟩ 0 := by
  have hDay := readDay?_dayText fits []
  rw [List.append_nil] at hDay
  rw [readDateOnly?, hDay]
  rfl

theorem isFractionAndZone_digits {run zone : List Char} {offset : Int} (nonempty : run ≠ [])
    (digits : run.all isDigit = true) (z : ZoneText zone offset) :
    isFractionAndZone ('.' :: (run ++ zone)) = true := by
  obtain ⟨hFront, hBack⟩ := split_run digits z.reading.1
  rw [isFractionAndZone, hFront, hBack, isZone_of_zoneText z, decide_eq_true nonempty]
  rfl

theorem exists_layout_of_timeText {offset : Int} (fits : day.FitsDigits) (fits' : time.FitsDigits)
    (h : TimeText rest time offset) :
    ∃ layout : DateLayout, layout.read? (dayText day ++ rest) = ofLocal? day time offset := by
  cases h with
  | midnight =>
    have hShape := follows?_dayText fits []
    rw [List.append_nil] at *
    exact ⟨.dateOnly, (if_pos (decide_eq_true hShape)).trans (readDateOnly?_dayText fits)⟩
  | @zoneless separator _ hSeparator whole =>
    have hShape (mark : Char) (hMark : mark ≠ '9') (hSame : separator = mark) :
        isDayAndClock mark List.isEmpty (dayText day ++ separator :: clockText time) = true := by
      rw [← List.append_nil (clockText time), isDayAndClock_dayText fits fits' hMark,
        decide_eq_true hSame]
      rfl
    have hRead := readZoneless?_dayText fits fits' hSeparator whole
    rcases hSeparator with hSpace | hT
    · exact ⟨.spaceSeparated, (if_pos (hShape ' ' (by decide) hSpace)).trans hRead⟩
    · exact ⟨.noZone, (if_pos (hShape 'T' (by decide) hT)).trans hRead⟩
  | @zoned _ fraction zone _ f z =>
    have hShape (condition : List Char → Bool) (h : condition (fraction ++ zone) = true) :
        isDayAndClock 'T' condition (dayText day ++ 'T' :: (clockText time ++ (fraction ++ zone))) =
          true := by
      rw [isDayAndClock_dayText fits fits' (by decide), h]
      rfl
    have hRead := read?_zoned fits fits' f z
    generalize time.nano = nano at f
    cases f with
    | none => exact ⟨.rfc3339, (if_pos (hShape isZone (isZone_of_zoneText z))).trans hRead⟩
    | digits nonempty digits =>
      have hFraction := isFractionAndZone_digits nonempty digits z
      exact ⟨.rfc3339Fractional, (if_pos (hShape isFractionAndZone hFraction)).trans hRead⟩

theorem exists_layout_of_names (h : Names text t) :
    ∃ layout : DateLayout, layout.read? text = some t := by
  obtain ⟨day, rest, time, offset, rfl, year, behind, h⟩ := names_iff.mp h
  obtain ⟨⟨real, realTime⟩, -⟩ := ofLocal?_eq_some_iff.mp h
  obtain ⟨layout, hRead⟩ := exists_layout_of_timeText (CalendarDay.fitsDigits_of_isReal real year)
    (TimeOfDay.fitsDigits_of_isReal realTime) behind
  exact ⟨layout, hRead.trans h⟩

theorem mem_all (layout : DateLayout) : layout ∈ all := by
  cases layout <;> decide

end DateLayout

namespace Instant

variable {text : List Char} {t u : Instant}

theorem Names.unique (h : Names text t) (h' : Names text u) : t = u := by
  obtain ⟨day, rest, time, offset, hText, year, behind, h⟩ := names_iff.mp h
  obtain ⟨day', rest', time', offset', hText', year', behind', h'⟩ := names_iff.mp h'
  obtain ⟨⟨real, realTime⟩, -⟩ := ofLocal?_eq_some_iff.mp h
  obtain ⟨⟨real', realTime'⟩, -⟩ := ofLocal?_eq_some_iff.mp h'
  have hDay := readDay?_dayText (CalendarDay.fitsDigits_of_isReal real year) rest
  rw [← hText, hText', readDay?_dayText (CalendarDay.fitsDigits_of_isReal real' year')] at hDay
  cases hDay
  obtain ⟨rfl, rfl⟩ := behind.unique behind' (TimeOfDay.fitsDigits_of_isReal realTime)
    (TimeOfDay.fitsDigits_of_isReal realTime') rfl
  exact Option.some.inj (h.symm.trans h')

/-- A list in which every layout stands reads what the texts name, whatever its order. -/
theorem findSome?_eq_some_iff_names {layouts : List DateLayout} (all : ∀ layout, layout ∈ layouts) :
    layouts.findSome? (fun layout => layout.read? text) = some t ↔ Names text t := by
  constructor
  · intro h
    obtain ⟨layout, -, hRead⟩ := List.exists_of_findSome?_eq_some h
    exact DateLayout.names_of_layout hRead
  · intro h
    -- Some layout reads the text; the first that does reads the same instant.
    obtain ⟨layout, hRead⟩ := DateLayout.exists_layout_of_names h
    have hSome : (layouts.findSome? fun layout => layout.read? text).isSome = true :=
      List.findSome?_isSome_iff.mpr ⟨layout, all layout, by rw [hRead]; rfl⟩
    obtain ⟨u, hFound⟩ := Option.isSome_iff_exists.mp hSome
    obtain ⟨first, -, hFirst⟩ := List.exists_of_findSome?_eq_some hFound
    rw [hFound, h.unique (DateLayout.names_of_layout hFirst)]

/-- A date text is read exactly where it names an instant, and as that instant. No two layouts
differ on a text, so their order does not matter. -/
theorem ofDateText?_eq_some_iff_names (text : List Char) :
    (∀ t, ofDateText? text = some t ↔ Names text t) ∧
      (∀ first second : DateLayout, ∀ t u, first.read? text = some t → second.read? text = some u →
        t = u) ∧
      ∀ layouts : List DateLayout, layouts.Perm DateLayout.all →
        layouts.findSome? (fun layout => layout.read? text) = ofDateText? text := by
  have hAll (t : Instant) : ofDateText? text = some t ↔ Names text t :=
    findSome?_eq_some_iff_names DateLayout.mem_all
  refine ⟨hAll, fun first second t u h h' => ?_, fun layouts perm => ?_⟩
  · exact (DateLayout.names_of_layout h).unique (DateLayout.names_of_layout h')
  · refine Option.ext fun t => ?_
    rw [hAll t]
    exact findSome?_eq_some_iff_names fun layout => perm.mem_iff.mpr layout.mem_all

/-- A leap second behind universal time, which two layouts read as a second of the next year. -/
theorem ofDateText?_eq_some_iff_names_of_next_year :
    let text := "2024-12-31T23:59:60-00:30".toList
    let t : Instant := ⟨1735691399, 1000000000⟩
    Names text t ∧ DateLayout.rfc3339.read? text = DateLayout.numericOffset.read? text ∧
      DateLayout.all.reverse.findSome? (fun layout => layout.read? text) = some t := by
  intro text t
  have hRead : ofDateText? text = some t := by decide +kernel
  have hFirst : DateLayout.rfc3339.read? text = some t := by decide +kernel
  have hLast : (DateLayout.numericOffset.read? text).isSome = true := by decide +kernel
  obtain ⟨u, hLast⟩ := Option.isSome_iff_exists.mp hLast
  obtain ⟨hNames, hSame, hOrder⟩ := ofDateText?_eq_some_iff_names text
  refine ⟨(hNames t).mp hRead, ?_, (hOrder _ (List.reverse_perm _)).trans hRead⟩
  rw [hFirst, hLast, hSame _ _ _ _ hFirst hLast]

end Instant

end Intake
