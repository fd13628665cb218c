import Intake.Instant.Reader
import Intake.Instant.Text
import Intake.Proofs.Calendar
import Intake.Proofs.Numerals

/-! # Instants read back

An instant that was read has a leap second only at the end of a minute. Its text reads as the same
instant where the year has four digits, and otherwise not at all.
-/

namespace Intake

theorem CalendarDay.monthLength_le (year : Int) (month : Nat) : monthLength year month ≤ 31 := by
  unfold monthLength
  split
  · split <;> decide
  all_goals decide

theorem CalendarDay.le_of_isReal {d : CalendarDay} (h : d.isReal = true) :
    d.month ≤ 12 ∧ d.day ≤ 31 := by
  simp only [isReal, Bool.and_eq_true, decide_eq_true_eq] at h
  refine ⟨Nat.le_of_not_lt fun hMonth => ?_, Nat.le_trans h.2 (monthLength_le d.year d.month)⟩
  have hLength : monthLength d.year d.month = 0 := by
    unfold monthLength
    split <;> omega
  omega

/-- A day that can be written with four digits for the year and two for the month and the day. -/
structure CalendarDay.FitsDigits (d : CalendarDay) : Prop where
  year : 0 ≤ d.year ∧ d.year ≤ 9999
  month : d.month < 10 ^ 2
  day : d.day < 10 ^ 2

theorem CalendarDay.fitsDigits_of_isReal {d : CalendarDay} (real : d.isReal = true)
    (year : 0 ≤ d.year ∧ d.year ≤ 9999) : d.FitsDigits := by
  obtain ⟨hMonth, hDay⟩ := le_of_isReal real
  exact ⟨year, by omega, by omega⟩

structure TimeOfDay.FitsDigits (t : TimeOfDay) : Prop where
  hour : t.hour < 10 ^ 2
  minute : t.minute < 10 ^ 2
  second : t.second < 10 ^ 2

theorem TimeOfDay.fitsDigits_of_isReal {t : TimeOfDay} (real : t.isReal = true) :
    t.FitsDigits := by
  simp only [isReal, Bool.and_eq_true, decide_eq_true_eq] at real
  exact ⟨by omega, by omega, by omega⟩

namespace Instant

open Text

/-- What every instant is that comes from a text or a count of thousandths. -/
structure IsLegal (t : Instant) : Prop where
  inRange : t.inRange = true
  nano_lt : t.nano < 2000000000
  leap : 1000000000 ≤ t.nano → t.second % 60 = 59

/-- The instant of a local day and time, whether it is in range or not. -/
def ofLocal (day : CalendarDay) (time : TimeOfDay) (offset : Int) : Instant where
  second := day.dayNumber * 86400 +
    (time.hour * 3600 + time.minute * 60 + (min time.second 59 : Nat)) - offset
  nano := if time.second = 60 then time.nano + 1000000000 else time.nano

theorem ofLocal?_eq_some_iff {day : CalendarDay} {time : TimeOfDay} {offset : Int} {t : Instant} :
    ofLocal? day time offset = some t ↔
      (day.isReal = true ∧ time.isReal = true) ∧ t.inRange = true ∧
        ofLocal day time offset = t := by
  have hLocal : ofLocal? day time offset =
      if (day.isReal && time.isReal) = true then
        if (ofLocal day time offset).inRange = true then some (ofLocal day time offset) else none
      else none := rfl
  rw [hLocal, ← Bool.and_eq_true]
  split
  · next hReal =>
    simp only [hReal, true_and]
    split
    · next hRange =>
      rw [Option.some.injEq]
      exact ⟨fun h => ⟨h ▸ hRange, h⟩, And.right⟩
    · next hRange =>
      simp only [reduceCtorEq, false_iff]
      rintro ⟨hIn, rfl⟩
      exact hRange hIn
  · next hReal => simp [hReal]

theorem isLegal_of_ofLocal? {day : CalendarDay} {time : TimeOfDay} {offset : Int} {t : Instant}
    (hNano : time.nano < 1000000000) (hOffset : offset % 60 = 0)
    (h : ofLocal? day time offset = some t) : t.IsLegal := by
  obtain ⟨-, hRange, rfl⟩ := ofLocal?_eq_some_iff.mp h
  refine ⟨hRange, ?_, ?_⟩
  · unfold ofLocal
    dsimp only
    split <;> omega
  · unfold ofLocal
    dsimp only
    split <;> omega

theorem isLegal_of_ofMillis? {millis : Int} {t : Instant} (h : ofMillis? millis = some t) :
    t.IsLegal := by
  have hMillis : ofMillis? millis =
      if (⟨millis / 1000, (millis % 1000).toNat * 1000000⟩ : Instant).inRange = true then
        some ⟨millis / 1000, (millis % 1000).toNat * 1000000⟩
      else none := rfl
  rw [hMillis] at h
  split at h
  · next hRange =>
    cases h
    refine ⟨hRange, ?_, ?_⟩
    · dsimp only
      omega
    · dsimp only
      omega
  · cases h

theorem day_isReal (t : Instant) : t.day.isReal = true := CalendarDay.isReal_ofDayNumber _

theorem timeOfDay_isReal (t : Instant) : t.timeOfDay.isReal = true := by
  have hClock : (t.second % 86400).toNat < 86400 := by omega
  have hHour : t.timeOfDay.hour ≤ 23 := by
    unfold timeOfDay
    dsimp only
    omega
  have hMinute : t.timeOfDay.minute ≤ 59 := by
    unfold timeOfDay
    dsimp only
    omega
  have hSecond : t.timeOfDay.second ≤ 60 := by
    unfold timeOfDay
    dsimp only
    split <;> omega
  simp [TimeOfDay.isReal, hHour, hMinute, hSecond]

theorem ofLocal_timeOfDay {t : Instant} (legal : t.IsLegal) :
    ofLocal t.day t.timeOfDay 0 = t := by
  obtain ⟨second, nano⟩ := t
  obtain ⟨-, hNano, hLeap⟩ := legal
  simp only [ofLocal, day, CalendarDay.dayNumber_ofDayNumber, timeOfDay, Instant.mk.injEq] at *
  -- A leap second is second 60 of its minute and goes back to second 59.
  by_cases h : 1000000000 ≤ nano
  · have hSecond : (second % 86400).toNat % 60 + 1 = 60 := by
      have hLast := hLeap h
      omega
    simp only [h, if_true, hSecond]
    omega
  · have hSecond : ¬(second % 86400).toNat % 60 = 60 := by omega
    simp only [h, if_false, hSecond, and_true]
    omega

/-- The day and the time of an instant in universal time give it back. -/
theorem ofLocal?_timeOfDay {t : Instant} (legal : t.IsLegal) :
    ofLocal? t.day t.timeOfDay 0 = some t :=
  ofLocal?_eq_some_iff.mpr ⟨⟨day_isReal t, timeOfDay_isReal t⟩, legal.inRange,
    ofLocal_timeOfDay legal⟩

theorem digits?_padded {width n : Nat} (hWidth : 0 < width) (h : n < 10 ^ width)
    (rest : List Char) : digits? width (padded width (decimal n) ++ rest) = some (n, rest) := by
  have hLength : (padded width (decimal n)).length = width := length_padded hWidth h
  have hDigits : (padded width (decimal n)).all isDigit = true :=
    List.all_eq_true.mpr fun _ => isDigit_of_mem_padded
  unfold digits?
  simp only [List.take_left' hLength, List.drop_left' hLength, hLength, hDigits, and_self, if_true,
    digitsFrom_padded]

theorem dayText_append {d : CalendarDay} (fits : d.FitsDigits) (rest : List Char) :
    dayText d ++ rest = padded 4 (decimal d.year.toNat) ++ '-' ::
      (padded 2 (decimal d.month) ++ '-' :: (padded 2 (decimal d.day) ++ rest)) := by
  simp [dayText, yearText, twoDigits, fits.year]

theorem clockText_append (t : TimeOfDay) (rest : List Char) :
    clockText t ++ rest = padded 2 (decimal t.hour) ++ ':' ::
      (padded 2 (decimal t.minute) ++ ':' :: (padded 2 (decimal t.second) ++ rest)) := by
  simp [clockText, twoDigits]

theorem readDay?_dayText {d : CalendarDay} (fits : d.FitsDigits) (rest : List Char) :
    readDay? (dayText d ++ rest) = some (d, rest) := by
  have hText := dayText_append fits rest
  obtain ⟨hYear, hMonth, hDay⟩ := fits
  have hCast : (d.year.toNat : Int) = d.year := Int.toNat_of_nonneg hYear.1
  rw [hText, readDay?, digits?_padded (by decide) (by omega)]
  simp only [Option.bind_eq_bind, Option.bind_some, exactly?, if_true]
  rw [digits?_padded (by decide) hMonth]
  simp only [Option.bind_some, if_true]
  rw [digits?_padded (by decide) hDay, hCast]
  rfl

theorem readClock?_clockText {t : TimeOfDay} (fits : t.FitsDigits) (rest : List Char) :
    readClock? (clockText t ++ rest) = some (t.hour, t.minute, t.second, rest) := by
  obtain ⟨hHour, hMinute, hSecond⟩ := fits
  rw [clockText_append, readClock?, digits?_padded (by decide) hHour]
  simp only [Option.bind_eq_bind, Option.bind_some, exactly?, if_true]
  rw [digits?_padded (by decide) hMinute]
  simp only [Option.bind_some, if_true]
  rw [digits?_padded (by decide) hSecond]
  rfl

theorem fraction?_padded {width n : Nat} (hWidth : 0 < width ∧ width ≤ 9) (h : n < 10 ^ width) :
    fraction? (padded width (decimal n) ++ ['Z']) = some (n * 10 ^ (9 - width), ['Z']) := by
  have hLength : (padded width (decimal n)).length = width := length_padded hWidth.1 h
  have hZ : isDigit 'Z' = false := by decide
  simp only [fraction?, takeWhile_isDigit_padded hZ, dropWhile_isDigit_padded hZ]
  rw [List.take_of_length_le (by omega), if_neg padded_ne_nil, digitsFrom_padded, hLength]

theorem optionalFraction?_fractionText {nano : Nat} (h : nano < 1000000000) :
    optionalFraction? (fractionText nano ++ ['Z']) = some (nano, ['Z']) := by
  unfold fractionText
  split
  · next hZero =>
    rw [hZero]
    rfl
  · split
    · change fraction? (padded 3 (decimal (nano / 1000000)) ++ ['Z']) = _
      rw [fraction?_padded (by decide) (by omega)]
      simp only [Option.some.injEq, Prod.mk.injEq, and_true]
      omega
    · split
      · change fraction? (padded 6 (decimal (nano / 1000)) ++ ['Z']) = _
        rw [fraction?_padded (by decide) (by omega)]
        simp only [Option.some.injEq, Prod.mk.injEq, and_true]
        omega
      · change fraction? (padded 9 (decimal nano) ++ ['Z']) = _
        rw [fraction?_padded (by decide) (by omega)]
        simp

theorem nano_timeOfDay_lt {t : Instant} (legal : t.IsLegal) : t.timeOfDay.nano < 1000000000 := by
  have hNano := legal.nano_lt
  unfold timeOfDay
  dsimp only
  split <;> omega

/-- An instant in a year of four digits is read back from its text. -/
theorem read?_text {t : Instant} (legal : t.IsLegal)
    (hYear : 0 ≤ t.day.year ∧ t.day.year ≤ 9999) : read? t.text = some t := by
  have hText : t.text = dayText t.day ++ ('T' :: (clockText t.timeOfDay ++
      (fractionText t.timeOfDay.nano ++ ['Z']))) := by
    simp [text]
  rw [hText, read?, readDay?_dayText (CalendarDay.fitsDigits_of_isReal (day_isReal t) hYear)]
  simp only [Option.bind_eq_bind, Option.bind_some, separator?]
  rw [readClock?_clockText (TimeOfDay.fitsDigits_of_isReal (timeOfDay_isReal t))]
  simp only [Option.bind_some]
  rw [optionalFraction?_fractionText (nano_timeOfDay_lt legal)]
  simp only [Option.bind_some, offset?]
  exact ofLocal?_timeOfDay legal

/-- The sign of another year is not read. -/
theorem readDay?_text_eq_none {t : Instant} (hYear : ¬(0 ≤ t.day.year ∧ t.day.year ≤ 9999)) :
    readDay? t.text = none := by
  obtain ⟨c, rest, hText, hSign⟩ : ∃ c rest, t.text = c :: rest ∧ isDigit c = false := by
    unfold text dayText yearText
    rw [if_neg hYear]
    by_cases hNegative : t.day.year < 0
    · exact ⟨'-', _, by simp [hNegative]; rfl, by decide⟩
    · exact ⟨'+', _, by simp [hNegative]; rfl, by decide⟩
  have hDigits : digits? 4 (c :: rest) = none := by
    simp [digits?, hSign]
  rw [hText, readDay?, hDigits]
  rfl

theorem read?_text_eq_none {t : Instant} (hYear : ¬(0 ≤ t.day.year ∧ t.day.year ≤ 9999)) :
    read? t.text = none := by
  rw [read?, readDay?_text_eq_none hYear]
  rfl

theorem nano_lt_of_fraction? {text rest : List Char} {nano : Nat}
    (h : fraction? text = some (nano, rest)) : nano < 1000000000 := by
  simp only [fraction?] at h
  split at h
  · cases h
  · simp only [Option.some.injEq, Prod.mk.injEq] at h
    obtain ⟨hValue, -⟩ := h
    have hLength : ((text.takeWhile isDigit).take 9).length ≤ 9 := List.length_take_le _ _
    have hDigits : ((text.takeWhile isDigit).take 9).all isDigit = true := by
      rw [List.all_eq_true]
      intro c hc
      exact List.all_eq_true.mp List.all_takeWhile c (List.mem_of_mem_take hc)
    rw [← hValue]
    calc digitsFrom 0 ((text.takeWhile isDigit).take 9) *
          10 ^ (9 - ((text.takeWhile isDigit).take 9).length)
        < 10 ^ ((text.takeWhile isDigit).take 9).length *
          10 ^ (9 - ((text.takeWhile isDigit).take 9).length) :=
          Nat.mul_lt_mul_of_pos_right (digitsFrom_lt hDigits) (Nat.pow_pos (by decide))
      _ = 1000000000 := by
          rw [← Nat.pow_add, Nat.add_sub_cancel' hLength]

theorem nano_lt_of_optionalFraction? {text rest : List Char} {nano : Nat}
    (h : optionalFraction? text = some (nano, rest)) : nano < 1000000000 := by
  unfold optionalFraction? at h
  split at h
  · exact nano_lt_of_fraction? h
  · cases h
    decide

/-- Offsets are whole minutes. -/
theorem offset?_mod {separator : List Char → Option (List Char)} {text rest : List Char}
    {offset : Int} (h : offset? separator text = some (offset, rest)) : offset % 60 = 0 := by
  unfold offset? at h
  split at h
  · cases h
    rfl
  · cases h
    rfl
  · simp only [Option.bind_eq_bind, Option.bind_eq_some_iff] at h
    obtain ⟨⟨sign, _⟩, -, ⟨hours, _⟩, -, _, -, ⟨minutes, _⟩, -, h⟩ := h
    split at h
    · cases h
      have hMinutes : (60 : Int) ∣ hours * 3600 + minutes * 60 := by omega
      exact Int.emod_eq_zero_of_dvd (Int.dvd_mul_of_dvd_right hMinutes)
    · cases h

theorem isLegal_of_read? {text : List Char} {t : Instant} (h : read? text = some t) :
    t.IsLegal := by
  simp only [read?, Option.bind_eq_bind, Option.bind_eq_some_iff] at h
  obtain ⟨⟨day, _⟩, -, _, -, ⟨hour, minute, second, _⟩, -, ⟨nano, _⟩, hFraction, ⟨offset, _⟩,
    hOffset, h⟩ := h
  split at h
  · exact isLegal_of_ofLocal? (nano_lt_of_optionalFraction? hFraction) (offset?_mod hOffset) h
  · cases h

end Instant

end Intake
