import Intake.Calendar

/-! # Days and their numbers

The days of a cycle of 400 years are counted by centuries, spans of four years and years. A leap
day ends its year, and a century ends in one only if it is the last of its cycle.
-/

namespace Intake.CalendarDay

/-- A day of a cycle with its century, its span of four years, its year and its day of the year. -/
structure Parts (dayOfCycle century span year day : Int) : Prop where
  century_le : 0 ≤ century ∧ century ≤ 3
  span_le : 0 ≤ span ∧ span ≤ 24
  year_le : 0 ≤ year ∧ year ≤ 3
  day_le : 0 ≤ day ∧ day ≤ 365
  leap : day = 365 → year = 3 ∧ (span = 24 → century = 3)
  sum : dayOfCycle = 36524 * century + 1461 * span + 365 * year + day

variable {d c f r k : Int}

theorem exists_parts (h₀ : 0 ≤ d) (h₁ : d < 146097) : ∃ c f r k, Parts d c f r k := by
  -- A leap day at the end of a cycle or a span must not begin a fifth century or a fifth year.
  obtain ⟨c, e, hc, he, hd⟩ : ∃ c e : Int, (0 ≤ c ∧ c ≤ 3) ∧
      (0 ≤ e ∧ e ≤ 36524 ∧ (e = 36524 → c = 3)) ∧ d = 36524 * c + e :=
    ⟨min 3 (d / 36524), d - 36524 * min 3 (d / 36524), by omega, by omega, by omega⟩
  obtain ⟨f, g, hf, hg, hfg⟩ : ∃ f g : Int, (0 ≤ f ∧ f ≤ 24) ∧
      (0 ≤ g ∧ g ≤ 1460 ∧ (g = 1460 → f = 24 → c = 3)) ∧ e = 1461 * f + g :=
    ⟨min 24 (e / 1461), e - 1461 * min 24 (e / 1461), by omega, by omega, by omega⟩
  refine ⟨c, f, min 3 (g / 365), g - 365 * min 3 (g / 365), hc, hf, ?_, ?_, ?_, ?_⟩
  all_goals omega

def yearOfCycle (dayOfCycle : Int) : Int :=
  (dayOfCycle - dayOfCycle / 1460 + dayOfCycle / 36524 - dayOfCycle / 146096) / 365

def dayOfYear (dayOfCycle : Int) : Int :=
  dayOfCycle - (365 * yearOfCycle dayOfCycle + yearOfCycle dayOfCycle / 4 -
    yearOfCycle dayOfCycle / 100)

theorem Parts.yearOfCycle_eq (h : Parts d c f r k) : yearOfCycle d = 100 * c + 4 * f + r := by
  obtain ⟨hc, hf, hr, hk, hLeap, hd⟩ := h
  have hCenturies : d / 36524 - d / 146096 = c := by
    have hLast : 1461 * f + 365 * r + k ≤ 36523 ∨ d = 146096 ∧ c = 3 := by omega
    rcases hLast with hLast | ⟨rfl, rfl⟩
    · have hCentury : d / 36524 = c := by omega
      have hCycle : d / 146096 = 0 := by omega
      omega
    · omega
  -- A span has a day more than 1460, so this quotient is ahead of the years by up to one.
  have hSpans : d / 1460 = (24 * c + f + 365 * r + k) / 1460 + (25 * c + f) := by
    have hSum : d = 24 * c + f + 365 * r + k + 1460 * (25 * c + f) := by omega
    rw [hSum, Int.add_mul_ediv_left _ _ (by decide)]
  have hDays : d - d / 1460 + d / 36524 - d / 146096 =
      k - (24 * c + f + 365 * r + k) / 1460 + 365 * (100 * c + 4 * f + r) := by omega
  have hRest : 0 ≤ k - (24 * c + f + 365 * r + k) / 1460 ∧
      k - (24 * c + f + 365 * r + k) / 1460 < 365 := by
    clear hSpans hDays hCenturies
    omega
  rw [yearOfCycle, hDays, Int.add_mul_ediv_left _ _ (by decide),
    Int.ediv_eq_zero_of_lt hRest.1 hRest.2, Int.zero_add]

theorem Parts.dayOfYear_eq (h : Parts d c f r k) : dayOfYear d = k := by
  unfold dayOfYear
  rw [h.yearOfCycle_eq]
  obtain ⟨hc, hf, hr, hk, hLeap, hd⟩ := h
  omega

/-- A day of a year that begins in March. -/
def ofMarchYear (year day : Int) : CalendarDay :=
  let month := (5 * day + 2) / 153
  let dayOfMonth := day - (153 * month + 2) / 5 + 1
  if month < 10 then ⟨year, (month + 3).toNat, dayOfMonth.toNat⟩
  else ⟨year + 1, (month - 9).toNat, dayOfMonth.toNat⟩

theorem ofDayNumber_eq (n : Int) : ofDayNumber n =
    ofMarchYear (yearOfCycle ((n + 719468) % 146097) + (n + 719468) / 146097 * 400)
      (dayOfYear ((n + 719468) % 146097)) := rfl

theorem isReal_ofMarchYear {year day : Int} (h : 0 ≤ day ∧ day ≤ 365)
    (leap : day = 365 → isLeapYear (year + 1) = true) : (ofMarchYear year day).isReal = true := by
  obtain ⟨month, hMonth⟩ : ∃ month, (5 * day + 2) / 153 = month := ⟨_, rfl⟩
  unfold ofMarchYear isReal
  rw [hMonth]
  obtain rfl | rfl | rfl | rfl | rfl | rfl | rfl | rfl | rfl | rfl | rfl | rfl :
      month = 0 ∨ month = 1 ∨ month = 2 ∨ month = 3 ∨ month = 4 ∨ month = 5 ∨ month = 6 ∨
        month = 7 ∨ month = 8 ∨ month = 9 ∨ month = 10 ∨ month = 11 := by omega
  case inr.inr.inr.inr.inr.inr.inr.inr.inr.inr.inr =>
    by_cases hLeap : isLeapYear (year + 1) = true
    · simp [monthLength, hLeap]
      omega
    · have hDay : day ≠ 365 := fun hDay => hLeap (leap hDay)
      simp [monthLength, hLeap]
      omega
  all_goals
    simp [monthLength]
    omega

theorem dayNumber_ofMarchYear {year day : Int} (h : 0 ≤ day ∧ day ≤ 365) :
    (ofMarchYear year day).dayNumber =
      year / 400 * 146097 + year % 400 * 365 + year % 400 / 4 - year % 400 / 100 + day -
        719468 := by
  obtain ⟨month, hMonth⟩ : ∃ month, (5 * day + 2) / 153 = month := ⟨_, rfl⟩
  unfold ofMarchYear dayNumber
  rw [hMonth]
  dsimp only
  split
  · next hEarly =>
    have hNumber : ((month + 3).toNat + 9 : Int) % 12 = month := by omega
    have hLate : ¬(month + 3).toNat ≤ 2 := by omega
    simp only [hLate, if_false, hNumber]
    omega
  · next hLate =>
    have hNumber : ((month - 9).toNat + 9 : Int) % 12 = month := by omega
    have hEarly : (month - 9).toNat ≤ 2 := by omega
    simp only [hEarly, if_true, hNumber, Int.add_sub_cancel]
    omega

theorem isLeapYear_of_parts {cycle : Int} (h : Parts d c f r 365) :
    isLeapYear (100 * c + 4 * f + r + cycle * 400 + 1) = true := by
  obtain ⟨hc, hf, hr, -, hLeap, -⟩ := h
  obtain ⟨rfl, hCentury⟩ := hLeap rfl
  simp only [isLeapYear, Bool.and_eq_true, Bool.or_eq_true, decide_eq_true_eq]
  omega

theorem isReal_ofDayNumber (n : Int) : (ofDayNumber n).isReal = true := by
  obtain ⟨c, f, r, k, hParts⟩ := exists_parts (d := (n + 719468) % 146097) (by omega) (by omega)
  rw [ofDayNumber_eq, hParts.yearOfCycle_eq, hParts.dayOfYear_eq]
  refine isReal_ofMarchYear hParts.day_le ?_
  rintro rfl
  exact isLeapYear_of_parts hParts

theorem dayNumber_ofDayNumber (n : Int) : (ofDayNumber n).dayNumber = n := by
  obtain ⟨c, f, r, k, hParts⟩ := exists_parts (d := (n + 719468) % 146097) (by omega) (by omega)
  rw [ofDayNumber_eq, hParts.yearOfCycle_eq, hParts.dayOfYear_eq,
    dayNumber_ofMarchYear hParts.day_le]
  obtain ⟨hc, hf, hr, -, -, hSum⟩ := hParts
  omega

/-- The days before a year that begins in March. -/
def daysBefore (year : Int) : Int :=
  year / 400 * 146097 + year % 400 * 365 + year % 400 / 4 - year % 400 / 100 - 719468

theorem daysBefore_lt {y z : Int} (h : y < z) : daysBefore y + 365 ≤ daysBefore z := by
  unfold daysBefore
  omega

/-- The first of January is day 306 of the year that began in March before it. -/
theorem dayNumber_first_of_year (year : Int) :
    dayNumber ⟨year, 1, 1⟩ = daysBefore (year - 1) + 306 := by
  unfold dayNumber daysBefore
  simp only [Nat.reduceLeDiff, if_true]
  omega

theorem year_ofMarchYear {year day : Int} (h : 0 ≤ day ∧ day ≤ 365) :
    (ofMarchYear year day).year = if day < 306 then year else year + 1 := by
  unfold ofMarchYear
  dsimp only
  split
  · rw [if_pos (by omega)]
  · rw [if_neg (by omega)]

/-- The day of a number lies in a year if the number lies between those of the first days of the
year and of the next. -/
theorem year_ofDayNumber {n first next : Int} (lower : dayNumber ⟨first, 1, 1⟩ ≤ n)
    (upper : n < dayNumber ⟨next, 1, 1⟩) :
    first ≤ (ofDayNumber n).year ∧ (ofDayNumber n).year < next := by
  obtain ⟨c, f, r, k, hParts⟩ := exists_parts (d := (n + 719468) % 146097) (by omega) (by omega)
  have hNumber := dayNumber_ofDayNumber n
  rw [ofDayNumber_eq, hParts.yearOfCycle_eq, hParts.dayOfYear_eq] at hNumber ⊢
  generalize 100 * c + 4 * f + r + (n + 719468) / 146097 * 400 = year at hNumber ⊢
  rw [dayNumber_ofMarchYear hParts.day_le] at hNumber
  rw [dayNumber_first_of_year] at lower upper
  rw [year_ofMarchYear hParts.day_le]
  have hDays : n = daysBefore year + k := by
    unfold daysBefore
    omega
  constructor
  · refine Int.not_lt.mp fun hEarlier => ?_
    split at hEarlier
    · next hEarly =>
      rcases Int.lt_or_eq_of_le (show year ≤ first - 1 by omega) with hLt | hEq
      · have hBefore := daysBefore_lt hLt
        omega
      · rw [← hEq] at lower
        omega
    · have hBefore := daysBefore_lt (show year < first - 1 by omega)
      have hDay := hParts.day_le
      omega
  · refine Int.not_le.mp fun hLater => ?_
    split at hLater
    · have hBefore := daysBefore_lt (show next - 1 < year by omega)
      have hDay := hParts.day_le
      omega
    · rcases Int.lt_or_eq_of_le (show next - 1 ≤ year by omega) with hLt | hEq
      · have hBefore := daysBefore_lt hLt
        omega
      · rw [hEq] at upper
        omega

end Intake.CalendarDay
