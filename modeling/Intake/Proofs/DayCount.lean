import Intake.Proofs.InstantText

/-! # Days counted one by one

The number of a day is a count of days, year by year and month by month. In a year of four digits it
is far inside the range of instants.
-/

namespace Intake

namespace CalendarDay

/-- The days of so many years from the year 0 on. -/
def daysOfYears : Nat → Nat
  | 0 => 0
  | year + 1 => daysOfYears year + if isLeapYear year then 366 else 365

/-- The days of so many months of a year. -/
def daysOfMonths (year : Int) : Nat → Nat
  | 0 => 0
  | month + 1 => daysOfMonths year month + monthLength year (month + 1)

/-- The days from the first of January of the year 0 to a day. -/
def elapsed (d : CalendarDay) : Nat :=
  daysOfYears d.year.toNat + daysOfMonths d.year (d.month - 1) + (d.day - 1)

theorem dayNumber_next_year (year : Int) :
    dayNumber ⟨year + 1, 1, 1⟩ = dayNumber ⟨year, 1, 1⟩ + if isLeapYear year then 366 else 365 := by
  rw [dayNumber_first_of_year, dayNumber_first_of_year]
  simp only [daysBefore, isLeapYear, Bool.and_eq_true, Bool.or_eq_true, decide_eq_true_eq]
  split <;> omega

theorem dayNumber_first_of_nat (year : Nat) :
    dayNumber ⟨year, 1, 1⟩ = daysOfYears year - 719528 := by
  induction year with
  | zero => decide
  | succ year ih =>
    have hNext : ((year + 1 : Nat) : Int) = year + 1 := rfl
    rw [hNext, dayNumber_next_year, ih, daysOfYears]
    split <;> omega

theorem daysBefore_eq_of_first (year : Int) :
    daysBefore year = dayNumber ⟨year, 1, 1⟩ + 31 + monthLength year 2 := by
  rw [dayNumber_first_of_year]
  simp only [daysBefore, monthLength, isLeapYear, Bool.and_eq_true, Bool.or_eq_true,
    decide_eq_true_eq]
  split <;> omega

theorem pos_of_isReal {d : CalendarDay} (h : d.isReal = true) : 1 ≤ d.month ∧ 1 ≤ d.day := by
  simp only [isReal, Bool.and_eq_true, decide_eq_true_eq] at h
  refine ⟨Nat.pos_of_ne_zero fun hMonth => ?_, h.1⟩
  rw [hMonth] at h
  exact Nat.not_succ_le_zero 0 (Nat.le_trans h.1 h.2)

theorem dayNumber_eq_of_first {d : CalendarDay} (real : d.isReal = true) :
    d.dayNumber = dayNumber ⟨d.year, 1, 1⟩ + daysOfMonths d.year (d.month - 1) + (d.day - 1) := by
  obtain ⟨hLast, -⟩ := le_of_isReal real
  obtain ⟨hFirst, -⟩ := pos_of_isReal real
  obtain ⟨year, month, day⟩ := d
  have hMarch := daysBefore_eq_of_first year
  have hJanuary := dayNumber_first_of_year year
  -- Only the length of February depends on the year.
  obtain ⟨february, hFebruary⟩ : ∃ length, monthLength year 2 = length := ⟨_, rfl⟩
  rw [hFebruary] at hMarch
  obtain rfl | rfl | rfl | rfl | rfl | rfl | rfl | rfl | rfl | rfl | rfl | rfl :
      month = 1 ∨ month = 2 ∨ month = 3 ∨ month = 4 ∨ month = 5 ∨ month = 6 ∨ month = 7 ∨
        month = 8 ∨ month = 9 ∨ month = 10 ∨ month = 11 ∨ month = 12 := by
    dsimp only at hFirst hLast
    omega
  all_goals
    simp only [daysOfMonths, hFebruary]
    simp [dayNumber, daysOfMonths, monthLength, daysBefore] at hMarch hJanuary ⊢
    omega

/-- The number of a day counts from the first of January 1970. -/
theorem dayNumber_eq_elapsed {d : CalendarDay} (real : d.isReal = true) (year : 0 ≤ d.year) :
    d.dayNumber = (d.elapsed : Int) - elapsed ⟨1970, 1, 1⟩ := by
  obtain ⟨-, hDay⟩ := pos_of_isReal real
  have hEpoch : elapsed ⟨1970, 1, 1⟩ = 719528 := by decide +kernel
  have hYear := dayNumber_first_of_nat d.year.toNat
  rw [Int.toNat_of_nonneg year] at hYear
  rw [dayNumber_eq_of_first real, hYear, hEpoch, elapsed]
  omega

end CalendarDay

end Intake
