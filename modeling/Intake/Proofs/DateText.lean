import Intake.DateLayout
import Intake.Proofs.DayCount

/-! # Texts that name instants

A text names an instant by a day alone, by a day and a clock, or by these with a zone and a fraction
before it. Its instant is the local time less the offset, counted in days one after another. Each
reader takes exactly what the writer of its field wrote, so no text names two instants.
-/

namespace Intake

namespace Instant

open Text

/-- A point and digits behind a second, cut to nanoseconds. -/
inductive FractionText : List Char → Nat → Prop where
  | none : FractionText [] 0
  | digits {run : List Char} (nonempty : run ≠ []) (digits : run.all isDigit = true) :
    FractionText ('.' :: run) (digitsFrom 0 run * 10 ^ 9 / 10 ^ run.length)

inductive ZoneText : List Char → Int → Prop where
  | universal : ZoneText ['Z'] 0
  | ahead {hours minutes : Nat} (h : hours ≤ 23) (m : minutes ≤ 59) :
    ZoneText ('+' :: (twoDigits hours ++ ':' :: twoDigits minutes)) (hours * 3600 + minutes * 60)
  | behind {hours minutes : Nat} (h : hours ≤ 23) (m : minutes ≤ 59) :
    ZoneText ('-' :: (twoDigits hours ++ ':' :: twoDigits minutes))
      (-(hours * 3600 + minutes * 60))

/-- What stands behind a day, with the time and the offset that it gives. -/
inductive TimeText : List Char → TimeOfDay → Int → Prop where
  | midnight : TimeText [] ⟨0, 0, 0, 0⟩ 0
  | zoneless {separator : Char} {time : TimeOfDay} (h : separator = ' ' ∨ separator = 'T')
    (whole : time.nano = 0) : TimeText (separator :: clockText time) time 0
  | zoned {time : TimeOfDay} {fraction zone : List Char} {offset : Int}
    (f : FractionText fraction time.nano) (z : ZoneText zone offset) :
    TimeText ('T' :: (clockText time ++ (fraction ++ zone))) time offset

/-- The instant of a local day and time by a count of days. -/
def counted (day : CalendarDay) (time : TimeOfDay) (offset : Int) : Instant where
  second := ((day.elapsed : Int) - CalendarDay.elapsed ⟨1970, 1, 1⟩) * 86400 +
    (time.hour * 3600 + time.minute * 60 + (min time.second 59 : Nat)) - offset
  nano := if time.second = 60 then time.nano + 1000000000 else time.nano

/-- A text that names an instant by a real day, in a year of four digits, and a real time. -/
inductive Names : List Char → Instant → Prop where
  | mk {day : CalendarDay} {rest : List Char} {time : TimeOfDay} {offset : Int}
    (year : 0 ≤ day.year ∧ day.year ≤ 9999) (real : day.isReal = true)
    (behind : TimeText rest time offset) (realTime : time.isReal = true) :
    Names (dayText day ++ rest) (counted day time offset)

variable {text rest : List Char} {day : CalendarDay} {time : TimeOfDay} {offset : Int} {t : Instant}

theorem ofLocal_eq_counted (real : day.isReal = true) (year : 0 ≤ day.year) :
    ofLocal day time offset = counted day time offset := by
  rw [ofLocal, counted, CalendarDay.dayNumber_eq_elapsed real year]

theorem inRange_ofLocal (real : day.isReal = true) (year : 0 ≤ day.year ∧ day.year ≤ 9999)
    (realTime : time.isReal = true) (near : offset.natAbs ≤ greatestOffset) :
    (ofLocal day time offset).inRange = true := by
  obtain ⟨hMonth, hDay⟩ := CalendarDay.le_of_isReal real
  simp only [TimeOfDay.isReal, Bool.and_eq_true, decide_eq_true_eq] at realTime
  have hFirst : firstSecond = -8334601228800 := by decide
  have hEnd : endSecond = 8210266876800 := by decide
  have hNumber : -1000000 ≤ day.dayNumber ∧ day.dayNumber ≤ 4000000 := by
    unfold CalendarDay.dayNumber
    dsimp only
    split <;> omega
  simp only [inRange, ofLocal, Bool.and_eq_true, decide_eq_true_eq, hFirst, hEnd]
  unfold greatestOffset at near
  omega

theorem ZoneText.near {zone : List Char} (h : ZoneText zone offset) :
    offset.natAbs ≤ greatestOffset := by
  unfold greatestOffset
  cases h <;> omega

theorem TimeText.near (h : TimeText rest time offset) : offset.natAbs ≤ greatestOffset := by
  cases h with
  | midnight | zoneless => decide
  | zoned _ z => exact z.near

theorem names_iff : Names text t ↔ ∃ day rest time offset, text = dayText day ++ rest ∧
    (0 ≤ day.year ∧ day.year ≤ 9999) ∧ TimeText rest time offset ∧
      ofLocal? day time offset = some t := by
  constructor
  · rintro ⟨year, real, behind, realTime⟩
    refine ⟨_, _, _, _, rfl, year, behind, ofLocal?_eq_some_iff.mpr ⟨⟨real, realTime⟩, ?_⟩⟩
    rw [← ofLocal_eq_counted real year.1]
    exact ⟨inRange_ofLocal real year realTime behind.near, rfl⟩
  · rintro ⟨day, rest, time, offset, rfl, year, behind, h⟩
    obtain ⟨⟨real, realTime⟩, -, rfl⟩ := ofLocal?_eq_some_iff.mp h
    rw [ofLocal_eq_counted real year.1]
    exact .mk year real behind realTime

theorem digits?_eq_some_iff {width n : Nat} (hWidth : 0 < width) :
    digits? width text = some (n, rest) ↔
      n < 10 ^ width ∧ text = padded width (decimal n) ++ rest := by
  constructor
  · intro h
    unfold digits? at h
    dsimp only at h
    split at h
    · next hDigits =>
      cases h
      obtain ⟨hLength, hAll⟩ := hDigits
      have hPositive : 0 < (text.take width).length := hLength.symm ▸ hWidth
      have hRun := padded_digitsFrom hPositive hAll
      have hValue := digitsFrom_lt hAll
      rw [hLength] at hRun hValue
      rw [hRun]
      exact ⟨hValue, (List.take_append_drop width text).symm⟩
    · cases h
  · rintro ⟨hValue, rfl⟩
    exact digits?_padded hWidth hValue rest

theorem exactly?_eq_some_iff {c : Char} : exactly? c text = some rest ↔ text = c :: rest := by
  cases text with
  | nil => simp [exactly?]
  | cons x tail =>
    rw [exactly?]
    split
    · next h => simp [h]
    · next h => simp [h]

theorem readDay?_eq_some_iff :
    readDay? text = some (day, rest) ↔ day.FitsDigits ∧ text = dayText day ++ rest := by
  constructor
  · intro h
    simp only [readDay?, Option.bind_eq_bind, Option.bind_eq_some_iff] at h
    obtain ⟨⟨year, _⟩, first, _, mark, ⟨month, _⟩, second, _, mark', ⟨d, _⟩, third, hEq⟩ := h
    cases hEq
    obtain ⟨hYear, rfl⟩ := (digits?_eq_some_iff (by decide)).mp first
    obtain rfl := exactly?_eq_some_iff.mp mark
    obtain ⟨hMonth, rfl⟩ := (digits?_eq_some_iff (by decide)).mp second
    obtain rfl := exactly?_eq_some_iff.mp mark'
    obtain ⟨hDay, rfl⟩ := (digits?_eq_some_iff (by decide)).mp third
    have hFour : 0 ≤ (year : Int) ∧ (year : Int) ≤ 9999 := by omega
    exact ⟨⟨hFour, hMonth, hDay⟩, by simp [dayText, yearText, twoDigits, hFour]⟩
  · rintro ⟨fits, rfl⟩
    exact readDay?_dayText fits rest

theorem readClock?_eq_some {hour minute second : Nat}
    (h : readClock? text = some (hour, minute, second, rest)) (nano : Nat) :
    TimeOfDay.FitsDigits ⟨hour, minute, second, nano⟩ ∧
      text = clockText ⟨hour, minute, second, nano⟩ ++ rest := by
  simp only [readClock?, Option.bind_eq_bind, Option.bind_eq_some_iff] at h
  obtain ⟨⟨_, _⟩, first, _, mark, ⟨_, _⟩, second, _, mark', ⟨_, _⟩, third, hEq⟩ := h
  cases hEq
  obtain ⟨hHour, rfl⟩ := (digits?_eq_some_iff (by decide)).mp first
  obtain rfl := exactly?_eq_some_iff.mp mark
  obtain ⟨hMinute, rfl⟩ := (digits?_eq_some_iff (by decide)).mp second
  obtain rfl := exactly?_eq_some_iff.mp mark'
  obtain ⟨hSecond, rfl⟩ := (digits?_eq_some_iff (by decide)).mp third
  exact ⟨⟨hHour, hMinute, hSecond⟩, by simp [clockText, twoDigits]⟩

/-- Nine digits are kept of a fraction, so what follows them is cut. -/
theorem fraction_cut {run : List Char} (digits : run.all isDigit = true) :
    digitsFrom 0 (run.take 9) * 10 ^ (9 - (run.take 9).length) =
      digitsFrom 0 run * 10 ^ 9 / 10 ^ run.length := by
  rcases Nat.le_total run.length 9 with hShort | hLong
  -- A short run is scaled up by the digits that it lacks, a long one loses those it has too many.
  · rw [List.take_of_length_le hShort]
    refine (Nat.div_eq_of_eq_mul_left (Nat.pow_pos (by decide)) ?_).symm
    rw [Nat.mul_assoc, ← Nat.pow_add, Nat.sub_add_cancel hShort]
  · have hSplit := digitsFrom_append (run.take 9) (run.drop 9)
    rw [List.take_append_drop, List.length_drop] at hSplit
    have hDropped : digitsFrom 0 (run.drop 9) < 10 ^ (run.length - 9) := by
      rw [← List.length_drop]
      refine digitsFrom_lt (List.all_eq_true.mpr fun c hc => ?_)
      exact List.all_eq_true.mp digits c (List.mem_of_mem_drop hc)
    have hPower : 10 ^ run.length = 10 ^ (run.length - 9) * 10 ^ 9 := by
      rw [← Nat.pow_add, Nat.sub_add_cancel hLong]
    rw [List.length_take, Nat.min_eq_left hLong, Nat.sub_self, Nat.pow_zero, Nat.mul_one, hPower,
      Nat.mul_div_mul_right _ _ (by decide), hSplit, Nat.add_comm,
      Nat.add_mul_div_right _ _ (Nat.pow_pos (by decide)), Nat.div_eq_of_lt hDropped, Nat.zero_add]

/-- A run of digits ends before what begins with none. -/
theorem split_run {run : List Char} (digits : run.all isDigit = true)
    (ends : rest.takeWhile isDigit = []) :
    (run ++ rest).takeWhile isDigit = run ∧ (run ++ rest).dropWhile isDigit = rest := by
  have hDigits : ∀ c ∈ run, isDigit c = true := List.all_eq_true.mp digits
  have hRest := List.takeWhile_append_dropWhile (p := isDigit) (l := rest)
  rw [ends, List.nil_append] at hRest
  rw [List.takeWhile_append_of_pos hDigits, List.dropWhile_append_of_pos hDigits, ends, hRest,
    List.append_nil]
  exact ⟨rfl, rfl⟩

theorem fraction?_of_run {run : List Char} (nonempty : run ≠ [])
    (digits : run.all isDigit = true) (ends : rest.takeWhile isDigit = []) :
    fraction? (run ++ rest) = some (digitsFrom 0 run * 10 ^ 9 / 10 ^ run.length, rest) := by
  obtain ⟨hFront, hBack⟩ := split_run digits ends
  have hKept : run.take 9 ≠ [] := by
    cases run with
    | nil => exact absurd rfl nonempty
    | cons c rest => exact List.cons_ne_nil _ _
  rw [fraction?, hFront, hBack, if_neg hKept, fraction_cut digits]

theorem offset?_signed_iff {sign : Char} {factor : Int}
    (hSign : ∀ rest, sign? (sign :: rest) = some (factor, rest)) :
    offset? (exactly? ':') (sign :: text) = some (offset, []) ↔
      ∃ hours minutes, (hours < 10 ^ 2 ∧ minutes ≤ 59) ∧
        text = twoDigits hours ++ ':' :: twoDigits minutes ∧
          offset = factor * (hours * 3600 + minutes * 60) := by
  unfold offset?
  split
  · next hZ =>
    cases hZ
    cases hSign []
  · next hZ =>
    cases hZ
    cases hSign []
  · simp only [hSign, Option.bind_eq_bind, Option.bind_some, Option.bind_eq_some_iff]
    constructor
    · rintro ⟨⟨hours, _⟩, first, _, mark, ⟨minutes, _⟩, second, h⟩
      obtain ⟨hHours, rfl⟩ := (digits?_eq_some_iff (by decide)).mp first
      obtain rfl := exactly?_eq_some_iff.mp mark
      obtain ⟨-, rfl⟩ := (digits?_eq_some_iff (by decide)).mp second
      split at h
      · next hMinutes =>
        cases h
        exact ⟨hours, minutes, ⟨hHours, hMinutes⟩, by simp [twoDigits], rfl⟩
      · cases h
    · rintro ⟨hours, minutes, ⟨hHours, hMinutes⟩, rfl, rfl⟩
      refine ⟨(hours, _), (digits?_eq_some_iff (by decide)).mpr ⟨hHours, rfl⟩, _,
        exactly?_eq_some_iff.mpr rfl, (minutes, []), (digits?_eq_some_iff (by decide)).mpr
          ⟨by omega, (List.append_nil _).symm⟩, if_pos hMinutes⟩

theorem ZoneText.reading {zone : List Char} (h : ZoneText zone offset) :
    zone.takeWhile isDigit = [] ∧ optionalFraction? zone = some (0, zone) ∧
      offset? (exactly? ':') zone = some (offset, []) := by
  cases h with
  | universal => exact ⟨rfl, rfl, rfl⟩
  | @ahead hours minutes h m =>
    refine ⟨rfl, rfl, (offset?_signed_iff fun _ => rfl).mpr ?_⟩
    exact ⟨hours, minutes, ⟨by omega, m⟩, rfl, (Int.one_mul _).symm⟩
  | @behind hours minutes h m =>
    refine ⟨rfl, rfl, (offset?_signed_iff fun _ => rfl).mpr ?_⟩
    exact ⟨hours, minutes, ⟨by omega, m⟩, rfl, (Int.neg_one_mul _).symm⟩

theorem FractionText.reading {fraction zone : List Char} {nano : Nat}
    (f : FractionText fraction nano) (z : ZoneText zone offset) :
    optionalFraction? (fraction ++ zone) = some (nano, zone) := by
  cases f with
  | none => exact z.reading.2.1
  | digits nonempty digits => exact fraction?_of_run nonempty digits z.reading.1

theorem ZoneText.ne_nil {zone : List Char} (h : ZoneText zone offset) : zone ≠ [] := by
  cases h <;> exact List.cons_ne_nil _ _

theorem clockText_inj {rest' : List Char} {time' : TimeOfDay} (fits : time.FitsDigits)
    (fits' : time'.FitsDigits) (same : clockText time ++ rest = clockText time' ++ rest') :
    rest = rest' ∧ (time.nano = time'.nano → time = time') := by
  have hRead := readClock?_clockText fits rest
  rw [same, readClock?_clockText fits' rest'] at hRead
  cases time
  cases time'
  cases hRead
  exact ⟨rfl, fun hNano => congrArg _ hNano⟩

theorem TimeText.unique {rest' : List Char} {time' : TimeOfDay} {offset' : Int}
    (h : TimeText rest time offset) (h' : TimeText rest' time' offset')
    (fits : time.FitsDigits) (fits' : time'.FitsDigits) (same : rest = rest') :
    time = time' ∧ offset = offset' := by
  cases h with
  | midnight =>
    cases h' with
    | midnight => exact ⟨rfl, rfl⟩
    | zoneless | zoned => cases same
  | zoneless _ whole =>
    cases h' with
    | midnight => cases same
    | zoneless _ whole' =>
      rw [← List.append_nil (clockText time), ← List.append_nil (clockText time')] at same
      exact ⟨(clockText_inj fits fits' (List.cons.inj same).2).2 (whole.trans whole'.symm), rfl⟩
    -- Without a zone the text ends with the clock, and a zone is not empty.
    | zoned _ zone =>
      rw [← List.append_nil (clockText time)] at same
      have hEmpty := (clockText_inj fits fits' (List.cons.inj same).2).1
      exact absurd (List.append_eq_nil_iff.mp hEmpty.symm).2 zone.ne_nil
  | zoned fraction zone =>
    cases h' with
    | midnight => cases same
    | zoneless _ whole' =>
      rw [← List.append_nil (clockText time')] at same
      have hEmpty := (clockText_inj fits fits' (List.cons.inj same).2).1
      exact absurd (List.append_eq_nil_iff.mp hEmpty).2 zone.ne_nil
    | zoned fraction' zone' =>
      obtain ⟨hTail, hTime⟩ := clockText_inj fits fits' (List.cons.inj same).2
      have hFraction := fraction.reading zone
      rw [hTail, fraction'.reading zone', Option.some.injEq, Prod.mk.injEq] at hFraction
      obtain ⟨hNano, rfl⟩ := hFraction
      have hZone := zone.reading.2.2
      rw [zone'.reading.2.2] at hZone
      cases hZone
      exact ⟨hTime hNano.symm, rfl⟩

end Instant

end Intake
