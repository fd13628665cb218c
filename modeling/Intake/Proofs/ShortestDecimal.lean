import Intake.Double.Shortest
import Intake.Proofs.Nearest
import Intake.Proofs.Numerals

/-! # The shortest decimal lies in the interval

Seventeen digits are enough for every double: the last grid that is tried is finer than the
interval, so one of the two neighbours lies in it. Whatever grid is the first with a hit, what is
found has the double as the nearest one.
-/

namespace Intake.Double

theorem zpow_ten_pos (p : ℤ) : (0 : ℚ) < 10 ^ p := zpow_pos (by decide) p

def Decimal.value (d : Decimal) : ℚ := d.digits * 10 ^ d.power

theorem Decimal.value_normal (count : ℕ) (power : ℤ) (fuel : ℕ) :
    (Decimal.normal count power fuel).value = count * 10 ^ power := by
  induction fuel generalizing count power with
  | zero => rfl
  | succ fuel ih =>
    unfold Decimal.normal
    split
    · next h =>
      have hCount : (count : ℚ) = (count / 10 : ℕ) * 10 := by
        exact_mod_cast (Nat.div_mul_cancel (Nat.dvd_of_mod_eq_zero h.2)).symm
      rw [ih, hCount, zpow_add_one₀ (by decide)]
      ring
    · rfl

section Spans

variable {x : Double}

theorem span_parts (positive : 0 < x.rank) :
    0 < x.span.denominator ∧
      (x.span.low : ℚ) / x.span.denominator = (x.significand - x.gapBelow) * 2 ^ x.exponent ∧
      (x.span.value : ℚ) / x.span.denominator = x.significand * 2 ^ x.exponent ∧
      (x.span.high : ℚ) / x.span.denominator = (x.significand + 1 / 2) * 2 ^ x.exponent ∧
      (x.span.closed = true ↔ x.significand % 2 = 0) := by
  have hSignificand : 0 < x.significand := significand_pos positive
  have hQuarter : (2 : ℚ) ^ (x.exponent - 2) = 2 ^ x.exponent / 4 := by
    rw [zpow_sub₀ (by decide)]
    norm_num
  have hGap : x.gapBelow =
      (if x.significand = 2 ^ 52 ∧ 2 ^ 53 ≤ x.rank then 1 else 2 : ℕ) / (4 : ℚ) := by
    unfold gapBelow
    split <;> norm_num
  have hLow : ((4 * x.significand -
      (if x.significand = 2 ^ 52 ∧ 2 ^ 53 ≤ x.rank then 1 else 2) : ℕ) : ℚ) =
      4 * (x.significand - x.gapBelow) := by
    rw [hGap, Nat.cast_sub (by split <;> omega)]
    push_cast
    ring
  unfold span
  dsimp only
  split
  · next e hExponent =>
    rw [hExponent, Int.ofNat_eq_natCast, zpow_natCast] at hQuarter
    refine ⟨Nat.one_pos, ?_, ?_, ?_, decide_eq_true_iff⟩
    · rw [Nat.cast_mul, hLow]
      push_cast
      rw [hQuarter]
      ring
    · push_cast
      rw [hQuarter]
      ring
    · push_cast
      rw [hQuarter]
      ring
  · next e hExponent =>
    rw [hExponent, zpow_negSucc] at hQuarter
    refine ⟨Nat.pow_pos (by decide), ?_, ?_, ?_, decide_eq_true_iff⟩
    · rw [hLow, div_eq_mul_inv]
      push_cast
      rw [hQuarter]
      ring
    · rw [div_eq_mul_inv]
      push_cast
      rw [hQuarter]
      ring
    · rw [div_eq_mul_inv]
      push_cast
      rw [hQuarter]
      ring

/-- A decimal is compared with the ends of the interval in whole numbers. -/
theorem Span.admits_eq (s : Span) (count : ℕ) (power : ℤ) :
    ∃ scaled unit : ℕ, 0 < unit ∧ (scaled : ℚ) / unit = count * 10 ^ power * s.denominator ∧
      s.admits count power =
        if s.closed then decide (s.low * unit ≤ scaled) && decide (scaled ≤ s.high * unit)
        else decide (s.low * unit < scaled) && decide (scaled < s.high * unit) := by
  cases power with
  | ofNat e =>
    refine ⟨count * 10 ^ e * s.denominator, 1, Nat.one_pos, ?_, rfl⟩
    rw [Int.ofNat_eq_natCast, zpow_natCast]
    push_cast
    ring
  | negSucc e =>
    refine ⟨count * s.denominator, 10 ^ (e + 1), Nat.pow_pos (by decide), ?_, rfl⟩
    rw [zpow_negSucc]
    push_cast
    ring

theorem Span.admits_iff {s : Span} (positive : 0 < s.denominator) (count : ℕ) (power : ℤ) :
    s.admits count power = true ↔
      if s.closed = true then
        (s.low : ℚ) / s.denominator ≤ count * 10 ^ power ∧
          count * 10 ^ power ≤ (s.high : ℚ) / s.denominator
      else
        (s.low : ℚ) / s.denominator < count * 10 ^ power ∧
          count * 10 ^ power < (s.high : ℚ) / s.denominator := by
  obtain ⟨scaled, unit, hUnit, hScaled, hAdmits⟩ := s.admits_eq count power
  have hPositive : (0 : ℚ) < s.denominator := by exact_mod_cast positive
  have hUnit' : (0 : ℚ) < unit := by exact_mod_cast hUnit
  rw [div_le_iff₀ hPositive, le_div_iff₀ hPositive, div_lt_iff₀ hPositive, lt_div_iff₀ hPositive,
    ← hScaled, le_div_iff₀ hUnit', div_le_iff₀ hUnit', lt_div_iff₀ hUnit', div_lt_iff₀ hUnit',
    hAdmits]
  split
  · rw [Bool.and_eq_true, decide_eq_true_eq, decide_eq_true_eq]
    norm_cast
  · rw [Bool.and_eq_true, decide_eq_true_eq, decide_eq_true_eq]
    norm_cast

theorem admits_iff_near (positive : 0 < x.rank) (count : ℕ) (power : ℤ) :
    x.span.admits count power = true ↔ x.Near (count * 10 ^ power) := by
  obtain ⟨hDenominator, hLow, -, hHigh, hClosed⟩ := span_parts positive
  have hUnit : (0 : ℚ) < 2 ^ x.exponent := zpow_two_pos _
  rw [Span.admits_iff hDenominator, hLow, hHigh, ← le_div_iff₀ hUnit, ← div_le_iff₀ hUnit,
    ← lt_div_iff₀ hUnit, ← div_lt_iff₀ hUnit]
  constructor
  · intro h
    split at h
    · next hEven => exact ⟨h.1, h.2, .inl (hClosed.mp hEven)⟩
    · exact ⟨h.1.le, h.2.le, .inr h⟩
  · rintro ⟨hLower, hUpper, hInside⟩
    split
    · exact ⟨hLower, hUpper⟩
    · next hOdd => exact hInside.resolve_left fun hEven => hOdd (hClosed.mpr hEven)

/-- The lower neighbour and the next one enclose the value. -/
theorem Span.neighbour_le {s : Span} (positive : 0 < s.denominator) (power : ℤ) :
    (s.neighbour power).1 * 10 ^ power ≤ (s.value : ℚ) / s.denominator ∧
      (s.value : ℚ) / s.denominator < ((s.neighbour power).1 + 1) * 10 ^ power := by
  obtain ⟨n, d, hd, hRatio, hFloor⟩ : ∃ n d : ℕ, 0 < d ∧
      (n : ℚ) / d = s.value / s.denominator / 10 ^ power ∧ (s.neighbour power).1 = n / d := by
    cases power with
    | ofNat e =>
      refine ⟨s.value, s.denominator * 10 ^ e,
        Nat.mul_pos positive (Nat.pow_pos (by decide)), ?_, rfl⟩
      rw [Int.ofNat_eq_natCast, zpow_natCast, div_div]
      push_cast
      rfl
    | negSucc e =>
      refine ⟨s.value * 10 ^ (e + 1), s.denominator, positive, ?_, rfl⟩
      rw [zpow_negSucc, div_inv_eq_mul]
      push_cast
      ring
  have hUnit : (0 : ℚ) < 10 ^ power := zpow_ten_pos _
  have hPositive : (0 : ℚ) < d := by exact_mod_cast hd
  rw [← le_div_iff₀ hUnit, ← div_lt_iff₀ hUnit, ← hRatio, hFloor, le_div_iff₀ hPositive,
    div_lt_iff₀ hPositive]
  constructor
  · exact_mod_cast Nat.div_mul_le_self n d
  · exact_mod_cast Nat.lt_mul_of_div_lt (Nat.lt_succ_self _) hd

theorem Span.admits_of_onGrid {s : Span} {tie : Tie} {power : ℤ} {count : ℕ}
    (h : s.onGrid tie power = some count) : s.admits count power = true := by
  unfold onGrid at h
  dsimp only at h
  split at h
  · cases h
  · next hLower _ =>
    cases h
    exact hLower
  · next _ hUpper =>
    cases h
    exact hUpper
  · next hLower hUpper =>
    split at h
    · cases h
      exact hLower
    · cases h
      exact hUpper
    · split at h
      · cases h
        exact hLower
      · cases h
        exact hUpper

theorem Span.onGrid_eq_none {s : Span} {tie : Tie} {power : ℤ} (h : s.onGrid tie power = none) :
    s.admits (s.neighbour power).1 power = false ∧
      s.admits ((s.neighbour power).1 + 1) power = false := by
  unfold onGrid at h
  dsimp only at h
  split at h
  · next hLower hUpper => exact ⟨hLower, hUpper⟩
  · cases h
  · cases h
  · split at h
    · cases h
    · cases h
    · split at h <;> cases h

/-- The leading digit of a ratio is not above the ratio. -/
theorem leadingPower_le {n d : ℕ} (hn : 0 < n) (hd : 0 < d) :
    (10 : ℚ) ^ leadingPower n d ≤ (n : ℚ) / d := by
  have hPositive : (0 : ℚ) < d := by exact_mod_cast hd
  rw [le_div_iff₀ hPositive]
  unfold leadingPower
  split
  · next hLarge =>
    obtain ⟨size, hSize⟩ : ∃ size, (Text.decimal (n / d)).length = size + 1 :=
      Nat.exists_eq_add_one.mpr Nat.length_toDigits_pos
    have hPower : 10 ^ size ≤ n / d := by
      have hLeading := Text.pow_length_decimal_le (Nat.div_pos hLarge hd)
      rwa [hSize] at hLeading
    have hWhole : 10 ^ size * d ≤ n := (Nat.le_div_iff_mul_le hd).mp hPower
    rw [hSize, Nat.cast_succ, add_sub_cancel_right, zpow_natCast]
    exact_mod_cast hWhole
  · next hSmall =>
    generalize hParts : (d + n - 1) / n - 1 = parts
    have hPower : parts < 10 ^ (Text.decimal parts).length := Text.lt_pow_length_decimal parts
    have hCover : d ≤ n * (parts + 1) := by
      have hDivision : n * ((d + n - 1) / n) + (d + n - 1) % n = d + n - 1 := Nat.div_add_mod _ n
      have hRest : (d + n - 1) % n < n := Nat.mod_lt _ hn
      have hNonzero : 0 < (d + n - 1) / n := Nat.div_pos (by omega) hn
      rw [← hParts, Nat.sub_add_cancel hNonzero]
      omega
    have hCover' : d ≤ n * 10 ^ (Text.decimal parts).length :=
      hCover.trans (Nat.mul_le_mul_left n hPower)
    rw [zpow_neg, zpow_natCast, inv_mul_le_iff₀ (by positivity), mul_comm]
    exact_mod_cast hCover'

/-- The seventeenth digit is finer than the interval. -/
theorem onGrid_sixteen_isSome (positive : 0 < x.rank) (tie : Tie) :
    (x.span.onGrid tie (leadingPower x.span.value x.span.denominator - 16)).isSome = true := by
  obtain ⟨hDenominator, -, hValue, -, -⟩ := span_parts positive
  obtain ⟨-, -, hSignificand, -, -⟩ := x.rank_eq_parts
  have hUnit : (0 : ℚ) < 2 ^ x.exponent := zpow_two_pos _
  have hPositive : (0 : ℚ) < x.span.value / x.span.denominator := by
    have : (0 : ℚ) < x.significand := by exact_mod_cast significand_pos positive
    rw [hValue]
    positivity
  have hNumerator : 0 < x.span.value := by
    rw [Nat.pos_iff_ne_zero]
    intro hZero
    rw [hZero] at hPositive
    simp at hPositive
  have hLeading := leadingPower_le hNumerator hDenominator
  generalize hPower : leadingPower x.span.value x.span.denominator - 16 = power
  have hStep : (10 : ℚ) ^ power * 10 ^ 16 ≤ x.significand * 2 ^ x.exponent := by
    rw [← hValue, ← zpow_natCast, ← zpow_add₀ (by decide), ← hPower]
    push_cast
    rwa [sub_add_cancel]
  rw [Option.isSome_iff_ne_none]
  intro hNone
  obtain ⟨hLower, hUpper⟩ := Span.onGrid_eq_none hNone
  obtain ⟨hBelow, hAbove⟩ := Span.neighbour_le hDenominator power
  rw [hValue, ← div_le_iff₀ hUnit] at hBelow
  rw [hValue, ← lt_div_iff₀ hUnit] at hAbove
  generalize (x.span.neighbour power).1 = count at hLower hUpper hBelow hAbove
  have hGap : 1 / 4 ≤ x.gapBelow ∧ x.gapBelow ≤ 1 / 2 := x.gapBelow_le
  -- Neither neighbour is in the interval, so that a whole step is wider than it.
  have hFarBelow : count * 10 ^ power / 2 ^ x.exponent ≤ x.significand - x.gapBelow := by
    refine le_of_not_gt fun hNear => ?_
    have hAdmits := (admits_iff_near positive count power).mpr
      ⟨hNear.le, by linarith, .inr ⟨hNear, by linarith⟩⟩
    rw [hLower] at hAdmits
    cases hAdmits
  have hFarAbove : x.significand + 1 / 2 ≤ (count + 1) * 10 ^ power / (2 : ℚ) ^ x.exponent := by
    refine le_of_not_gt fun hNear => ?_
    have hAdmits := (admits_iff_near positive (count + 1) power).mpr
    push_cast at hAdmits
    rw [hUpper] at hAdmits
    exact absurd (hAdmits ⟨by linarith, hNear.le, .inr ⟨by linarith, hNear⟩⟩) (by decide)
  have hWidth : (x.gapBelow + 1 / 2) * 2 ^ x.exponent ≤ (10 : ℚ) ^ power := by
    rw [← le_div_iff₀ hUnit]
    have hSplit : (count + 1) * 10 ^ power / (2 : ℚ) ^ x.exponent =
        count * 10 ^ power / 2 ^ x.exponent + 10 ^ power / 2 ^ x.exponent := by ring
    linarith
  have hDigits : (x.gapBelow + 1 / 2) * 10 ^ 16 ≤ (x.significand : ℚ) := by
    refine le_of_mul_le_mul_right ?_ hUnit
    linarith
  have hLarge : (x.significand : ℚ) < 2 ^ 53 := by exact_mod_cast hSignificand
  by_cases hHalf : x.significand = 2 ^ 52 ∧ 2 ^ 53 ≤ x.rank
  · rw [hHalf.1] at hDigits
    norm_num at hDigits
    linarith
  · rw [gapBelow, if_neg hHalf] at hDigits
    norm_num at hDigits hLarge
    linarith

/-- What is found reads back: the double is the nearest to it. -/
theorem near_shortest (positive : 0 < x.rank) (tie : Tie) : x.Near (x.shortest tie).value := by
  let s := x.span
  let leading := leadingPower s.value s.denominator
  let found := (List.range 17).findSome? fun k : ℕ =>
    (s.onGrid tie (leading - k)).map fun count => Decimal.normal count (leading - k) 18
  have hShortest : x.shortest tie = found.getD ⟨x.significand, x.exponent⟩ := rfl
  have hFound : found.isSome = true := by
    rw [List.findSome?_isSome_iff]
    refine ⟨16, List.mem_range.mpr (by decide), ?_⟩
    rw [Option.isSome_map]
    exact onGrid_sixteen_isSome positive tie
  obtain ⟨d, hSome⟩ := Option.isSome_iff_exists.mp hFound
  obtain ⟨k, -, hGrid⟩ := List.exists_of_findSome?_eq_some hSome
  obtain ⟨count, hCount, rfl⟩ := Option.map_eq_some_iff.mp hGrid
  rw [hShortest, hSome, Option.getD_some, Decimal.value_normal]
  exact (admits_iff_near positive _ _).mp (Span.admits_of_onGrid hCount)

theorem digits_pos_shortest (positive : 0 < x.rank) (tie : Tie) : 0 < (x.shortest tie).digits := by
  have hValue : 0 < (x.shortest tie).value := (near_shortest positive tie).pos positive
  rw [Nat.pos_iff_ne_zero]
  intro hNone
  rw [Decimal.value, hNone, Nat.cast_zero, zero_mul] at hValue
  exact hValue.false

end Spans

end Intake.Double
