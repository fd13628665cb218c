import Intake.Proofs.ScaledDoubles

/-! # Doubles that stay finite

A ratio below the middle between the greatest double and the next power of two is rounded to a
finite double. So products are finite that stay below it by the error of their factors, and
quotients of what is not large.
-/

namespace Intake.Double

/-- What lies below is not rounded to infinity. -/
def overflow : ℚ := (2 ^ 53 - 1 / 2) * 2 ^ (971 : ℤ)

theorem overflow_lt : overflow < 2 ^ (1024 : ℤ) := by
  rw [overflow, show (1024 : ℤ) = 53 + 971 from rfl, zpow_two_add]
  exact mul_lt_mul_of_pos_right (by norm_num) (zpow_two_pos _)

theorem lt_overflow {q : ℚ} (h : q ≤ 2 ^ (971 : ℤ)) : q < overflow := by
  refine h.trans_lt ?_
  rw [overflow]
  exact lt_mul_of_one_lt_left (zpow_two_pos _) (by norm_num)

theorem small_le : (2 : ℚ) ^ 64 ≤ 2 ^ (971 : ℤ) := by
  rw [← zpow_natCast]
  exact zpow_le_zpow_right₀ one_le_two (by decide)

/-- How much rounding may add to a number, in proportion. -/
def precision : ℚ := 2 ^ (-53 : ℤ)

section Ratios

variable {n d : ℕ}

theorem rankOfRatio_lt (hd : 0 < d) (h : (n : ℚ) / d < overflow) :
    rankOfRatio n d < infinityRank := by
  rcases Nat.eq_zero_or_pos n with rfl | hn
  · rw [rankOfRatio, if_pos (.inl rfl)]
    decide
  have hSteps : stepsOf n d ≤ 2 ^ 53 := stepsOf_le hn hd
  have hScale : scaleOf n d ≤ 971 := by
    by_contra hLarge
    have hPower : (2 : ℚ) ^ (1024 : ℤ) ≤ (n : ℚ) / d :=
      (zpow_le_zpow_right₀ (by decide) (by omega)).trans (zpow_le_ratio hn hd (by omega))
    linarith [overflow_lt]
  rw [rankOfRatio_eq_steps hn hd, infinityRank]
  rcases eq_or_lt_of_le hScale with hTop | hBelow
  · have hRounds := (roundsTo_stepsOf (n := n) hd).lower
    rw [hTop] at hRounds
    have hQuotient : (n : ℚ) / d / 2 ^ (971 : ℤ) < 2 ^ 53 - 1 / 2 := by
      rwa [div_lt_iff₀ (zpow_two_pos _)]
    have hCast : (stepsOf n d : ℚ) < (2 ^ 53 : ℕ) := by
      push_cast
      linarith
    have hCount : stepsOf n d < 2 ^ 53 := by exact_mod_cast hCast
    omega
  · omega

theorem rank_ofRatio (negative : Bool) (hd : 0 < d) (h : (n : ℚ) / d < overflow) :
    (ofRatio negative n d).rank = rankOfRatio n d := by
  have hRank : rankOfRatio n d < infinityRank := rankOfRatio_lt hd h
  rw [ofRatio, Nat.min_eq_left hRank.le, ofRank, dif_pos (hRank.trans (by decide))]

theorem isFinite_ofRatio (negative : Bool) (hd : 0 < d) (h : (n : ℚ) / d < overflow) :
    (ofRatio negative n d).isFinite = true := by
  rw [isFinite, decide_eq_true_eq, rank_ofRatio negative hd h]
  exact rankOfRatio_lt hd h

/-- A number is moved by at most half of a step. -/
theorem size_ofRatio_le (negative : Bool) (hn : 0 < n) (hd : 0 < d) (h : (n : ℚ) / d < overflow) :
    (ofRatio negative n d).size ≤ (n : ℚ) / d + 2 ^ scaleOf n d / 2 := by
  rw [size_of_rankOfRatio hn hd (rank_ofRatio negative hd h)]
  have hUnit : (0 : ℚ) < 2 ^ scaleOf n d := zpow_two_pos _
  have hRounds := (roundsTo_stepsOf (n := n) hd).lower
  rw [le_div_iff₀ hUnit] at hRounds
  linarith

/-- A step is a small part of a number, where this is not smaller than all normal doubles. -/
theorem step_le (hn : 0 < n) (hd : 0 < d) (normal : -1074 < scaleOf n d) :
    (2 : ℚ) ^ scaleOf n d / 2 ≤ (n : ℚ) / d * precision := by
  have hLower : (2 : ℚ) ^ (52 + scaleOf n d) ≤ (n : ℚ) / d := zpow_le_ratio hn hd normal
  rw [zpow_two_add] at hLower
  rw [precision]
  norm_num at hLower ⊢
  linarith

theorem size_ofRatio_le_of_one_le (negative : Bool) (hd : 0 < d) (large : 1 ≤ (n : ℚ) / d)
    (h : (n : ℚ) / d < overflow) :
    (ofRatio negative n d).size ≤ (n : ℚ) / d * (1 + precision) := by
  have hn : 0 < n := by
    rw [Nat.pos_iff_ne_zero]
    rintro rfl
    simp at large
    linarith
  have hNormal : -1074 < scaleOf n d := by
    have hLog : (0 : ℤ) ≤ log2Ratio n d :=
      le_of_zpow_lt (by simpa using large) (zpow_log2Ratio hn hd).2
    unfold scaleOf
    omega
  have hStep := step_le hn hd hNormal
  have hSize := size_ofRatio_le negative hn hd h
  linarith

theorem size_ofRatio_le_of_small (negative : Bool) (hd : 0 < d) (small : (n : ℚ) / d ≤ 2 ^ 64) :
    (ofRatio negative n d).size ≤ 2 ^ 65 := by
  have hBelow : (n : ℚ) / d < overflow := lt_overflow (small.trans small_le)
  rcases Nat.eq_zero_or_pos n with rfl | hn
  · rw [size_zero (rank_ofRatio negative hd hBelow)]
    positivity
  have hSize := size_ofRatio_le negative hn hd hBelow
  have hStep : (2 : ℚ) ^ scaleOf n d / 2 ≤ 2 ^ 64 := by
    rcases eq_or_lt_of_le (le_scaleOf n d) with hLeast | hNormal
    · have hOne : (2 : ℚ) ^ scaleOf n d ≤ 1 := zpow_le_one_of_nonpos₀ one_le_two (by omega)
      linarith
    · have hPart := step_le hn hd hNormal
      rw [precision] at hPart
      norm_num at hPart ⊢
      linarith
  linarith

end Ratios

section Scaling

variable {x : Double}

/-- The powers of ten are one and then at least two, and little is added to them. -/
theorem ratio_powersOfTen : ((List.range 309).all fun k =>
    (min k 1 + 1) * (powerOfTen k).ratio.2 ≤ (powerOfTen k).ratio.1 &&
      (powerOfTen k).ratio.1 * 2 ^ 53 ≤ 10 ^ k * (2 ^ 53 + 1) * (powerOfTen k).ratio.2) = true := by
  decide +kernel

theorem size_powerOfTen_bounds {k : ℕ} (hk : k ≤ greatestPower) :
    (min k 1 : ℕ) + 1 ≤ (powerOfTen k).size ∧ (powerOfTen k).size ≤ 10 ^ k * (1 + precision) := by
  obtain ⟨hDenominator, hSize⟩ := (powerOfTen k).ratio_eq_size
  have hPositive : (0 : ℚ) < (powerOfTen k).ratio.2 := by exact_mod_cast hDenominator
  have hBounds :=
    List.all_eq_true.mp ratio_powersOfTen k (List.mem_range.mpr (Nat.lt_succ_of_le hk))
  rw [Bool.and_eq_true, decide_eq_true_eq, decide_eq_true_eq] at hBounds
  obtain ⟨hLower, hUpper⟩ := hBounds
  rw [← hSize, le_div_iff₀ hPositive, div_le_iff₀ hPositive]
  refine ⟨by exact_mod_cast hLower, ?_⟩
  have hUpper' : ((powerOfTen k).ratio.1 : ℚ) * 2 ^ 53 ≤
      10 ^ k * (2 ^ 53 + 1) * (powerOfTen k).ratio.2 := by exact_mod_cast hUpper
  have hSplit : (10 : ℚ) ^ k * (1 + precision) * (powerOfTen k).ratio.2 * 2 ^ 53 =
      10 ^ k * (2 ^ 53 + 1) * (powerOfTen k).ratio.2 := by
    rw [precision]
    norm_num
    ring
  exact le_of_mul_le_mul_right (hUpper'.trans_eq hSplit.symm) (by norm_num)

theorem two_le_size_powerOfTen {k : ℕ} (positive : 0 < k) (hk : k ≤ greatestPower) :
    2 ≤ (powerOfTen k).size := by
  have hLower := (size_powerOfTen_bounds hk).1
  rw [Nat.min_eq_right positive] at hLower
  norm_num at hLower
  exact hLower

theorem isFinite_times {y : Double} (h : x.size * y.size < overflow) :
    (x.times y).isFinite = true := by
  obtain ⟨hx, hxSize⟩ := x.ratio_eq_size
  obtain ⟨hy, hySize⟩ := y.ratio_eq_size
  refine isFinite_ofRatio _ (Nat.mul_pos hx hy) ?_
  push_cast
  rwa [← div_mul_div_comm, hxSize, hySize]

theorem dividedBy_bounds {y : Double} (hx : x.size ≤ 2 ^ 65) (hy : 2 ≤ y.size) :
    (x.dividedBy y).isFinite = true ∧ (x.dividedBy y).size ≤ 2 ^ 65 := by
  obtain ⟨hxDenominator, hxSize⟩ := x.ratio_eq_size
  obtain ⟨-, hySize⟩ := y.ratio_eq_size
  have hDivisor : 0 < y.ratio.1 := ratio_ne_zero (rank_pos_of_size_pos (by linarith))
  have hRatio : ((x.ratio.1 * y.ratio.2 : ℕ) : ℚ) / (x.ratio.2 * y.ratio.1 : ℕ) ≤ 2 ^ 64 := by
    push_cast
    rw [← div_div_div_eq, hxSize, hySize, div_le_iff₀ (by linarith)]
    linarith
  have hDenominator : 0 < x.ratio.2 * y.ratio.1 := Nat.mul_pos hxDenominator hDivisor
  exact ⟨isFinite_ofRatio _ hDenominator (lt_overflow (hRatio.trans small_le)),
    size_ofRatio_le_of_small _ hDenominator hRatio⟩

/-- Quotients of what is not large are finite, however many it takes. -/
theorem exists_scaled? {power : ℤ} (hx : x.size ≤ 2 ^ 65)
    (up : 0 ≤ power → power ≤ greatestPower →
      x.size * (powerOfTen power.natAbs).size < overflow)
    (large : greatestPower < power → x.rank = 0) : ∃ y, x.scaled? power = some y := by
  fun_induction scaled? x power with
  | case1 x power _ ten y hFinite => exact ⟨y, rfl⟩
  | case2 x power hPower ten y hInfinite =>
    refine absurd ?_ hInfinite
    by_cases hUp : 0 ≤ power
    · rw [show y = x.times ten from if_pos hUp]
      exact isFinite_times (up hUp (by omega))
    · rw [show y = x.dividedBy ten from if_neg hUp]
      exact (dividedBy_bounds hx (two_le_size_powerOfTen (by omega) hPower)).1
  | case3 x => exact ⟨x, rfl⟩
  | case4 x power hPower hNonzero hUp => exact absurd (large (by omega)) hNonzero
  | case5 x power hPower hNonzero hDown ih =>
    have hNext := (dividedBy_bounds hx (two_le_size_powerOfTen (by decide) le_rfl)).2
    refine ih hNext (fun hUp => ?_) fun hLarge => ?_
    · omega
    · omega

theorem size_ofInt_le {word : ℕ} (room : word < 2 ^ 64) :
    (ofInt word).size ≤ word * (1 + precision) := by
  rcases Nat.eq_zero_or_pos word with rfl | hPositive
  · rw [size_zero (by decide)]
    simp
  · have hRatio : (word : ℚ) / (1 : ℕ) = word := by rw [Nat.cast_one, div_one]
    have hOne : (1 : ℚ) ≤ word := by exact_mod_cast hPositive
    have hRoom : (word : ℚ) ≤ 2 ^ 64 := by exact_mod_cast room.le
    have hSize := size_ofRatio_le_of_one_le (n := word) (decide ((word : ℤ) < 0)) one_pos
      (hOne.trans_eq hRatio.symm) (lt_overflow (hRatio.trans_le (hRoom.trans small_le)))
    rwa [hRatio] at hSize

/-- What lies above stands for one of the two greatest doubles. -/
def safe : ℚ := (2 ^ 53 - 5 / 2) * 2 ^ (971 : ℤ)

theorem Near.le_safe {x : Double} {q : ℚ} (h : x.Near q) (below : x.rank + 2 < infinityRank) :
    q ≤ safe := by
  obtain ⟨hRank, -, hSignificand, -, hNormal⟩ := x.rank_eq_parts
  rw [infinityRank] at below
  have hUpper : q ≤ (x.significand + 1 / 2) * 2 ^ x.exponent :=
    (div_le_iff₀ (zpow_two_pos _)).mp h.upper
  refine hUpper.trans ?_
  rcases (by omega : x.exponent ≤ 970 ∨ x.exponent = 971) with hBelow | hTop
  · have hCount : (x.significand : ℚ) + 1 ≤ 2 ^ 53 := by exact_mod_cast hSignificand
    calc ((x.significand : ℚ) + 1 / 2) * 2 ^ x.exponent
        ≤ (2 ^ 53 - 1 / 2) * 2 ^ (970 : ℤ) :=
          mul_le_mul (by linarith) (zpow_le_zpow_right₀ one_le_two hBelow) (zpow_two_pos _).le
            (by norm_num)
      _ ≤ (2 ^ 53 - 5 / 2) * 2 * 2 ^ (970 : ℤ) :=
          mul_le_mul_of_nonneg_right (by norm_num) (zpow_two_pos _).le
      _ = safe := by
        rw [safe, show (971 : ℤ) = 1 + 970 from rfl, zpow_two_add, zpow_one, mul_assoc]
  · have hCount : (x.significand : ℚ) + 3 ≤ 2 ^ 53 := by
      exact_mod_cast (by omega : x.significand + 3 ≤ 2 ^ 53)
    rw [hTop, safe]
    exact mul_le_mul_of_nonneg_right (by linarith) (zpow_two_pos _).le

theorem safe_mul_lt : safe * (1 + precision) * (1 + precision) < overflow := by
  have hPart : ((2 : ℚ) ^ 53 - 5 / 2) * (1 + precision) * (1 + precision) < 2 ^ 53 - 1 / 2 := by
    rw [precision]
    norm_num
  rw [safe, overflow]
  calc (2 ^ 53 - 5 / 2) * 2 ^ (971 : ℤ) * (1 + precision) * (1 + precision)
      = (2 ^ 53 - 5 / 2) * (1 + precision) * (1 + precision) * 2 ^ (971 : ℤ) := by ring
    _ < (2 ^ 53 - 1 / 2) * 2 ^ (971 : ℤ) := mul_lt_mul_of_pos_right hPart (zpow_two_pos _)

theorem safe_lt : safe < 10 ^ (309 : ℤ) :=
  calc safe < 2 ^ (53 : ℤ) * 2 ^ (971 : ℤ) :=
        mul_lt_mul_of_pos_right (by norm_num) (zpow_two_pos _)
    _ = 2 ^ (1 + 93 * 11 : ℤ) := (zpow_two_add 53 971).symm
    _ = 2 * (2 ^ (93 : ℤ)) ^ (11 : ℤ) := by rw [zpow_two_add, zpow_mul, zpow_one]
    _ ≤ 10 * (10 ^ (28 : ℤ)) ^ (11 : ℤ) :=
        mul_le_mul (by decide) (zpow_le_zpow_left₀ (by decide) (by norm_num) (by norm_num))
          (by positivity) (by decide)
    _ = 10 ^ (309 : ℤ) := by
        rw [← zpow_mul, ← zpow_one_add₀ (by decide)]
        rfl

/-- A word that is scaled to no more than that stays finite, though both factors may have been
rounded up. -/
theorem exists_scaled?_ofInt {word : ℕ} {power : ℤ} (room : word < 2 ^ 64)
    (h : word * 10 ^ power ≤ safe) : ∃ y, (ofInt word).scaled? power = some y := by
  have hWord := size_ofInt_le room
  refine exists_scaled? ?_ (fun hUp hPower => ?_) fun hLarge => ?_
  · have hRoom : (word : ℚ) + 1 ≤ 2 ^ 64 := by exact_mod_cast room
    rw [precision] at hWord
    norm_num at hWord hRoom ⊢
    linarith
  · have hTen := (size_powerOfTen_bounds (k := power.natAbs) (by omega)).2
    have hNatAbs : (10 : ℚ) ^ power.natAbs = 10 ^ power := by
      rw [← zpow_natCast, Int.natAbs_of_nonneg hUp]
    rw [hNatAbs] at hTen
    have hPrecision : (0 : ℚ) < 1 + precision := by
      rw [precision]
      positivity
    calc (ofInt word).size * (powerOfTen power.natAbs).size
        ≤ word * (1 + precision) * (10 ^ power * (1 + precision)) :=
          mul_le_mul hWord hTen (size_nonneg _) (by positivity)
      _ = word * 10 ^ power * (1 + precision) * (1 + precision) := by ring
      _ ≤ safe * (1 + precision) * (1 + precision) := by gcongr
      _ < overflow := safe_mul_lt
  · rcases Nat.eq_zero_or_pos word with rfl | hPositive
    · decide
    · have hOne : (1 : ℚ) ≤ word := by exact_mod_cast hPositive
      have hPower : (10 : ℚ) ^ (309 : ℤ) ≤ 10 ^ power :=
        zpow_le_zpow_right₀ (by norm_num) (by unfold greatestPower at hLarge; omega)
      have hProduct : (10 : ℚ) ^ power ≤ word * 10 ^ power :=
        le_mul_of_one_le_left (by positivity) hOne
      linarith [safe_lt]

end Scaling

end Intake.Double
