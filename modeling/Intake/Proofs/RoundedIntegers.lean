import Intake.Proofs.Nearest
import Intake.Proofs.Rounding

/-! # Integers among the doubles

The order of the finite doubles is the order of the numbers that they stand for. No double is nearer
to an integer than the one it is rounded to, hence rounding keeps the order of integers; integers
of up to 53 bits are doubles themselves, and larger ones of 64 bits are moved by at most 512.
-/

namespace Intake.Double

section Values

variable {x y : Double}

/-- The number that a finite double stands for, its sign apart. -/
def size (x : Double) : ℚ := x.significand * 2 ^ x.exponent

def value (x : Double) : ℚ := if x.negative then -x.size else x.size

theorem size_nonneg (x : Double) : 0 ≤ x.size :=
  mul_nonneg (Nat.cast_nonneg _) (zpow_two_pos _).le

theorem abs_value (x : Double) : |x.value| = x.size := by
  unfold value
  split
  · rw [abs_neg, abs_of_nonneg x.size_nonneg]
  · exact abs_of_nonneg x.size_nonneg

theorem size_zero (zero : x.rank = 0) : x.size = 0 := by
  simp [size, significand, zero]

theorem size_pos (positive : 0 < x.rank) : 0 < x.size :=
  mul_pos (by exact_mod_cast significand_pos positive) (zpow_two_pos _)

theorem size_lt_zpow (x : Double) : x.size < 2 ^ (53 + x.exponent) := by
  have hSignificand : (x.significand : ℚ) < 2 ^ 53 := by exact_mod_cast x.rank_eq_parts.2.2.1
  rw [zpow_two_add]
  exact mul_lt_mul_of_pos_right hSignificand (zpow_two_pos _)

theorem size_lt_size (h : x.rank < y.rank) : x.size < y.size := by
  obtain ⟨hx, hxLeast, hxUpper, hxAbove, hxNormal⟩ := x.rank_eq_parts
  obtain ⟨hy, hyLeast, hyUpper, hyAbove, hyNormal⟩ := y.rank_eq_parts
  have hExponent : x.exponent ≤ y.exponent := by
    by_contra hAbove
    have hLarge : 2 ^ 52 ≤ x.significand := hxNormal (by omega)
    omega
  rcases eq_or_lt_of_le hExponent with hSame | hBelow
  · have hSignificand : (x.significand : ℚ) < y.significand := by
      rw [hSame] at hx
      exact_mod_cast (by omega : x.significand < y.significand)
    rw [size, size, hSame]
    exact mul_lt_mul_of_pos_right hSignificand (zpow_two_pos _)
  · have hLarge : (2 : ℚ) ^ 52 ≤ y.significand := by exact_mod_cast hyNormal (by omega)
    calc x.size < 2 ^ (53 + x.exponent) := x.size_lt_zpow
      _ ≤ 2 ^ (52 + y.exponent) := zpow_le_zpow_right₀ (by decide) (by omega)
      _ = 2 ^ 52 * 2 ^ y.exponent := zpow_two_add 52 _
      _ ≤ y.size := mul_le_mul_of_nonneg_right hLarge (zpow_two_pos _).le

theorem value_lt_value (h : x.order < y.order) : x.value < y.value := by
  unfold order at h
  unfold value
  cases hxSign : x.negative <;> cases hySign : y.negative <;>
    simp only [hxSign, hySign, if_true, if_false, Bool.false_eq_true] at h ⊢
  case false.false => exact size_lt_size (by omega)
  case false.true => omega
  case true.false =>
    have hx : 0 ≤ x.size := x.size_nonneg
    have hy : 0 ≤ y.size := y.size_nonneg
    rcases Nat.eq_zero_or_pos x.rank with hZero | hPositive
    · have hSize : 0 < y.size := size_pos (by omega)
      linarith
    · have hSize : 0 < x.size := size_pos hPositive
      linarith
  case true.true => exact neg_lt_neg (size_lt_size (by omega))

end Values

section Steps

/-- A double of which the exponent and a count of steps are known, also when the count carries. -/
theorem size_of_rank {x : Double} {k e : ℕ} (rank : x.rank = e * 2 ^ 52 + k) (upper : k ≤ 2 ^ 53)
    (normal : e = 0 ∨ 2 ^ 52 ≤ k) : x.size = k * 2 ^ ((e : ℤ) - 1074) := by
  obtain ⟨hRank, hLeast, hUpper, hAbove, hNormal⟩ := x.rank_eq_parts
  rcases eq_or_lt_of_le upper with rfl | hBelow
  · have hSignificand : x.significand = 2 ^ 52 ∧ x.exponent = (e : ℤ) - 1074 + 1 := by
      have hNormal : 2 ^ 52 ≤ x.significand := hNormal (by omega)
      omega
    rw [size, hSignificand.1, hSignificand.2, zpow_two_add]
    push_cast
    ring
  · have hSignificand : x.significand = k ∧ x.exponent = (e : ℤ) - 1074 := by
      by_cases hExponent : -1074 < x.exponent
      · have hNormal : 2 ^ 52 ≤ x.significand := hNormal hExponent
        omega
      · omega
    rw [size, hSignificand.1, hSignificand.2]

end Steps

section Nearest

variable {w : ℚ} {k : ℕ}

theorem RoundsTo.error_le (h : RoundsTo w k) : |(k : ℚ) - w| ≤ 1 / 2 := by
  rw [abs_le]
  constructor <;> linarith [h.lower, h.upper]

theorem RoundsTo.natCast_eq {j : ℕ} (h : RoundsTo j k) : k = j := by
  have hSelf : RoundsTo (j : ℚ) j :=
    ⟨by linarith, by linarith, .inr ⟨by linarith, by linarith⟩⟩
  exact h.unique hSelf

theorem one_le_abs_sub {i j : ℤ} (h : i ≠ j) : (1 : ℚ) ≤ |(i : ℚ) - j| := by
  exact_mod_cast Int.one_le_abs (sub_ne_zero.mpr h)

/-- What is at most half a step away is the nearest of all whole numbers of steps. -/
theorem RoundsTo.nearest (h : RoundsTo w k) (j : ℤ) : |(k : ℚ) - w| ≤ |(j : ℚ) - w| := by
  by_cases hSame : j = (k : ℤ)
  · rw [hSame, Int.cast_natCast]
  · have hApart : (1 : ℚ) ≤ |(j : ℚ) - (k : ℤ)| := one_le_abs_sub hSame
    have hTriangle : |(j : ℚ) - k| ≤ |(j : ℚ) - w| + |w - k| := abs_sub_le _ _ _
    rw [Int.cast_natCast] at hApart
    rw [abs_sub_comm w] at hTriangle
    linarith [h.error_le]

theorem RoundsTo.even_of_tie (h : RoundsTo w k) {j : ℤ} (tie : |(j : ℚ) - w| = |(k : ℚ) - w|) :
    j = k ∨ k % 2 = 0 := by
  refine or_iff_not_imp_right.mpr fun hOdd => ?_
  obtain ⟨hLower, hUpper⟩ := h.inside.resolve_left hOdd
  have hStrict : |(k : ℚ) - w| < 1 / 2 := by
    rw [abs_lt]
    constructor <;> linarith
  by_contra hApart
  have hApart : (1 : ℚ) ≤ |(j : ℚ) - (k : ℤ)| := one_le_abs_sub hApart
  have hTriangle : |(j : ℚ) - k| ≤ |(j : ℚ) - w| + |w - k| := abs_sub_le _ _ _
  rw [Int.cast_natCast] at hApart
  rw [abs_sub_comm w] at hTriangle
  linarith

end Nearest

section Ratios

variable {n d : ℕ}

/-- The power of two in whose steps a ratio is counted. -/
def scaleOf (n d : ℕ) : ℤ := max (log2Ratio n d - 52) (-1074)

def stepsOf (n d : ℕ) : ℕ := stepsAt n d (scaleOf n d)

theorem le_scaleOf (n d : ℕ) : -1074 ≤ scaleOf n d := le_max_right _ _

theorem rankOfRatio_eq_steps (hn : 0 < n) (hd : 0 < d) :
    rankOfRatio n d = (scaleOf n d + 1074).toNat * 2 ^ 52 + stepsOf n d :=
  rankOfRatio_of_pos hn hd

theorem roundsTo_stepsOf (hd : 0 < d) : RoundsTo ((n : ℚ) / d / 2 ^ scaleOf n d) (stepsOf n d) :=
  stepsAt_roundsTo hd _

theorem ratio_lt_zpow (hn : 0 < n) (hd : 0 < d) : (n : ℚ) / d < 2 ^ (53 + scaleOf n d) :=
  calc (n : ℚ) / d < 2 ^ (log2Ratio n d + 1) := (zpow_log2Ratio hn hd).2
    _ ≤ 2 ^ (53 + scaleOf n d) := zpow_le_zpow_right₀ (by decide) (by unfold scaleOf; omega)

theorem zpow_le_ratio (hn : 0 < n) (hd : 0 < d) (normal : -1074 < scaleOf n d) :
    (2 : ℚ) ^ (52 + scaleOf n d) ≤ (n : ℚ) / d := by
  have hScale : 52 + scaleOf n d = log2Ratio n d := by
    unfold scaleOf at normal ⊢
    omega
  rw [hScale]
  exact (zpow_log2Ratio hn hd).1

theorem stepsOf_le (hn : 0 < n) (hd : 0 < d) : stepsOf n d ≤ 2 ^ 53 := by
  have hUpper : (n : ℚ) / d / 2 ^ scaleOf n d < 2 ^ 53 := by
    rw [div_lt_iff₀ (zpow_two_pos _)]
    exact (ratio_lt_zpow hn hd).trans_eq (zpow_two_add 53 _)
  have hCast : (stepsOf n d : ℚ) < (2 ^ 53 + 1 : ℕ) := by
    push_cast
    linarith [(roundsTo_stepsOf (n := n) hd).lower]
  exact Nat.lt_succ_iff.mp (by exact_mod_cast hCast)

theorem le_stepsOf (hn : 0 < n) (hd : 0 < d) (normal : -1074 < scaleOf n d) :
    2 ^ 52 ≤ stepsOf n d := by
  have hLower : (2 : ℚ) ^ 52 ≤ (n : ℚ) / d / 2 ^ scaleOf n d := by
    rw [le_div_iff₀ (zpow_two_pos _)]
    exact (zpow_two_add 52 _).symm.trans_le (zpow_le_ratio hn hd normal)
  have hCast : ((2 ^ 52 : ℕ) : ℚ) < (stepsOf n d + 1 : ℕ) := by
    push_cast
    linarith [(roundsTo_stepsOf (n := n) hd).upper]
  exact Nat.lt_succ_iff.mp (by exact_mod_cast hCast)

theorem size_of_rankOfRatio {x : Double} (hn : 0 < n) (hd : 0 < d)
    (rank : x.rank = rankOfRatio n d) : x.size = stepsOf n d * 2 ^ scaleOf n d := by
  have hLeast : -1074 ≤ scaleOf n d := le_scaleOf n d
  have hExponent : (((scaleOf n d + 1074).toNat : ℕ) : ℤ) - 1074 = scaleOf n d := by omega
  have hNormal : (scaleOf n d + 1074).toNat = 0 ∨ 2 ^ 52 ≤ stepsOf n d := by
    refine or_iff_not_imp_left.mpr fun hAbove => le_stepsOf hn hd ?_
    omega
  have hRank : x.rank = (scaleOf n d + 1074).toNat * 2 ^ 52 + stepsOf n d :=
    rank.trans (rankOfRatio_eq_steps hn hd)
  rw [size_of_rank hRank (stepsOf_le hn hd) hNormal, hExponent]

/-- A number of the size of some double is a whole number of the steps of a ratio, or it lies below
the powers of two between which the ratio lies. -/
theorem whole_or_below {t : ℚ} {y : Double} (ht : |t| = y.size) (scale : ℤ) :
    (∃ j : ℤ, t = j * 2 ^ scale) ∨ y.exponent < scale ∧ t < 2 ^ (52 + scale) := by
  rcases lt_or_ge y.exponent scale with hBelow | hReached
  · refine .inr ⟨hBelow, ?_⟩
    calc t ≤ |t| := le_abs_self t
      _ = y.size := ht
      _ < 2 ^ (53 + y.exponent) := y.size_lt_zpow
      _ ≤ 2 ^ (52 + scale) := zpow_le_zpow_right₀ (by decide) (by omega)
  · obtain ⟨e, hExponent⟩ : ∃ e : ℕ, y.exponent = e + scale :=
      ⟨(y.exponent - scale).toNat, by omega⟩
    have hSize : y.size = ((y.significand * 2 ^ e : ℕ) : ℤ) * 2 ^ scale := by
      rw [size, hExponent, zpow_two_add, zpow_natCast]
      push_cast
      ring
    rcases abs_choice t with hSame | hOpposite
    · exact .inl ⟨_, (hSame.symm.trans ht).trans hSize⟩
    · refine .inl ⟨-((y.significand * 2 ^ e : ℕ) : ℤ), ?_⟩
      rw [Int.cast_neg, neg_mul, ← hSize, ← ht, hOpposite, neg_neg]

theorem error_eq (a : ℚ) (n d : ℕ) :
    |a * 2 ^ scaleOf n d - (n : ℚ) / d| =
      |a - (n : ℚ) / d / 2 ^ scaleOf n d| * 2 ^ scaleOf n d := by
  have hUnit : (0 : ℚ) < 2 ^ scaleOf n d := zpow_two_pos _
  rw [← abs_of_pos hUnit, ← abs_mul, abs_of_pos hUnit, sub_mul, div_mul_cancel₀ _ hUnit.ne']

variable {t : ℚ} {y : Double} (hn : 0 < n) (hd : 0 < d)

include hn hd

/-- Below the power of two under a ratio there is nothing near. -/
theorem steps_nearer_of_below (below : y.exponent < scaleOf n d) (h : t < 2 ^ (52 + scaleOf n d)) :
    |stepsOf n d * 2 ^ scaleOf n d - (n : ℚ) / d| < |t - (n : ℚ) / d| := by
  have hPower : (2 : ℚ) ^ (52 + scaleOf n d) ≤ (n : ℚ) / d :=
    zpow_le_ratio hn hd (y.rank_eq_parts.2.1.trans_lt below)
  have hReached : (2 : ℚ) ^ (52 + scaleOf n d) = ((2 ^ 52 : ℤ) : ℚ) * 2 ^ scaleOf n d := by
    rw [zpow_two_add]
    norm_num
  calc |stepsOf n d * 2 ^ scaleOf n d - (n : ℚ) / d|
      ≤ |((2 ^ 52 : ℤ) : ℚ) * 2 ^ scaleOf n d - (n : ℚ) / d| := by
        rw [error_eq, error_eq]
        exact mul_le_mul_of_nonneg_right ((roundsTo_stepsOf hd).nearest _) (zpow_two_pos _).le
    _ = (n : ℚ) / d - 2 ^ (52 + scaleOf n d) := by
        rw [← hReached, abs_of_nonpos (by linarith), neg_sub]
    _ < (n : ℚ) / d - t := by linarith
    _ ≤ |t - (n : ℚ) / d| := by
        rw [abs_sub_comm]
        exact le_abs_self _

variable (ht : |t| = y.size)

include ht

theorem steps_nearest : |stepsOf n d * 2 ^ scaleOf n d - (n : ℚ) / d| ≤ |t - (n : ℚ) / d| := by
  rcases whole_or_below ht (scaleOf n d) with ⟨j, rfl⟩ | ⟨hExponent, hBelow⟩
  · rw [error_eq, error_eq]
    exact mul_le_mul_of_nonneg_right ((roundsTo_stepsOf hd).nearest j) (zpow_two_pos _).le
  · exact (steps_nearer_of_below hn hd hExponent hBelow).le

theorem steps_even_of_tie
    (tie : |t - (n : ℚ) / d| = |stepsOf n d * 2 ^ scaleOf n d - (n : ℚ) / d|) :
    t = stepsOf n d * 2 ^ scaleOf n d ∨ stepsOf n d % 2 = 0 := by
  rcases whole_or_below ht (scaleOf n d) with ⟨j, rfl⟩ | ⟨hExponent, hBelow⟩
  · rw [error_eq, error_eq] at tie
    have hTie := mul_right_cancel₀ (zpow_two_pos _).ne' tie
    refine ((roundsTo_stepsOf hd).even_of_tie hTie).imp_left fun hSame => ?_
    rw [hSame, Int.cast_natCast]
  · exact absurd tie (steps_nearer_of_below hn hd hExponent hBelow).ne'

end Ratios

/-- No finite double is nearer to `q` than `x`, and where another one is as near, the last place of
`x` is even. -/
structure Nearest (x : Double) (q : ℚ) : Prop where
  finite : x.isFinite = true
  least : ∀ y : Double, y.isFinite = true → |x.value - q| ≤ |y.value - q|
  even : ∀ y : Double, y.isFinite = true → |y.value - q| = |x.value - q| →
    y.value = x.value ∨ x.rank % 2 = 0

section Integers

variable {n : ℤ}

/-- A number with the sign of `n`, from its size, and back. -/
def signed (n : ℤ) (t : ℚ) : ℚ := if n < 0 then -t else t

theorem signed_signed (n : ℤ) (t : ℚ) : signed n (signed n t) = t := by
  unfold signed
  split <;> simp

theorem abs_signed (n : ℤ) (t : ℚ) : |signed n t| = |t| := by
  unfold signed
  split <;> simp

theorem signed_sub (n : ℤ) (t : ℚ) : |signed n t - n| = |t - (n.natAbs : ℕ)| := by
  have hSize : ((n.natAbs : ℕ) : ℚ) = |(n : ℚ)| := by rw [Nat.cast_natAbs, Int.cast_abs]
  rw [hSize]
  unfold signed
  split
  · next hNegative =>
    rw [abs_of_neg (Int.cast_lt_zero.mpr hNegative), ← abs_neg]
    congr 1
    ring
  · next hPositive => rw [abs_of_nonneg (Int.cast_nonneg (not_lt.mp hPositive))]

theorem value_ofInt (n : ℤ) : (ofInt n).value = signed n (ofInt n).size := by
  unfold value signed
  rw [negative_ofInt]
  simp

theorem size_ofInt (h : n.natAbs < 2 ^ 64) (nonzero : n ≠ 0) :
    (ofInt n).size = stepsOf n.natAbs 1 * 2 ^ scaleOf n.natAbs 1 :=
  size_of_rankOfRatio (Int.natAbs_pos.mpr nonzero) one_pos (rank_ofInt h)

theorem nearest_ofInt (h : n.natAbs < 2 ^ 64) : Nearest (ofInt n) n := by
  have hFinite : (ofInt n).isFinite = true := isFinite_ofInt h
  rcases eq_or_ne n 0 with rfl | hNonzero
  · have hValue : (ofInt 0).value = (0 : ℤ) := by
      rw [value_ofInt, size_zero (by decide)]
      simp [signed]
    refine ⟨hFinite, fun y _ => ?_, fun y _ _ => .inr (by decide)⟩
    rw [hValue, sub_self, abs_zero]
    exact abs_nonneg _
  · have hPositive : 0 < n.natAbs := Int.natAbs_pos.mpr hNonzero
    have hSize : |(ofInt n).value - n| =
        |stepsOf n.natAbs 1 * 2 ^ scaleOf n.natAbs 1 - ((n.natAbs : ℕ) : ℚ) / (1 : ℕ)| := by
      rw [value_ofInt, signed_sub, size_ofInt h hNonzero, Nat.cast_one, div_one]
    have hOther (y : Double) : |y.value - n| =
        |signed n y.value - ((n.natAbs : ℕ) : ℚ) / (1 : ℕ)| := by
      rw [Nat.cast_one, div_one, ← signed_sub, signed_signed]
    have hValue (y : Double) : |signed n y.value| = y.size := by rw [abs_signed, abs_value]
    refine ⟨hFinite, fun y _ => ?_, fun y _ hTie => ?_⟩
    · rw [hSize, hOther]
      exact steps_nearest hPositive one_pos (hValue y)
    · rw [hSize, hOther] at hTie
      rcases steps_even_of_tie hPositive one_pos (hValue y) hTie with hSame | hEven
      · left
        rw [value_ofInt, size_ofInt h hNonzero, ← hSame, signed_signed]
      · right
        rw [rank_ofInt h, rankOfRatio_eq_steps hPositive one_pos]
        omega

theorem scaleOf_one (nonzero : n ≠ 0) : scaleOf n.natAbs 1 = n.natAbs.log2 - 52 := by
  rw [scaleOf, log2Ratio_one (Int.natAbs_ne_zero.mpr nonzero)]
  omega

theorem rank_ofInt_pos (h : n.natAbs < 2 ^ 64) (nonzero : n ≠ 0) : 0 < (ofInt n).rank := by
  have hScale : scaleOf n.natAbs 1 = n.natAbs.log2 - 52 := scaleOf_one nonzero
  rw [rank_ofInt h, rankOfRatio_eq_steps (Int.natAbs_pos.mpr nonzero) one_pos]
  omega

/-- An integer of at most 53 bits is a double. -/
theorem size_ofInt_of_small (h : n.natAbs < 2 ^ 53) : (ofInt n).size = (n.natAbs : ℕ) := by
  rcases eq_or_ne n 0 with rfl | hNonzero
  · rw [size_zero (by decide)]
    simp
  · have hLog : n.natAbs.log2 < 53 := (Nat.log2_lt (Int.natAbs_ne_zero.mpr hNonzero)).mpr h
    obtain ⟨s, hScale⟩ : ∃ s : ℕ, scaleOf n.natAbs 1 = -(s : ℤ) := by
      rw [scaleOf_one hNonzero]
      exact ⟨52 - n.natAbs.log2, by omega⟩
    have hWhole : ((n.natAbs : ℕ) : ℚ) / (1 : ℕ) / 2 ^ scaleOf n.natAbs 1 =
        (n.natAbs * 2 ^ s : ℕ) := by
      rw [hScale, zpow_neg, zpow_natCast, Nat.cast_one, div_one, div_inv_eq_mul]
      push_cast
      rfl
    have hSteps : stepsOf n.natAbs 1 = n.natAbs * 2 ^ s :=
      RoundsTo.natCast_eq (hWhole ▸ roundsTo_stepsOf one_pos)
    rw [size_ofInt (h.trans (by decide)) hNonzero, hSteps, hScale, zpow_neg, zpow_natCast]
    push_cast
    exact mul_inv_cancel_right₀ (by positivity) _

theorem le_size_ofInt_of_large (h : n.natAbs < 2 ^ 64) (large : 2 ^ 53 ≤ n.natAbs) :
    2 ^ 53 ≤ (ofInt n).size := by
  have hNonzero : n ≠ 0 := by
    rintro rfl
    simp at large
  have hPositive : 0 < n.natAbs := Int.natAbs_pos.mpr hNonzero
  have hLog : 53 ≤ n.natAbs.log2 := (Nat.le_log2 hPositive.ne').mpr large
  have hScale : scaleOf n.natAbs 1 = n.natAbs.log2 - 52 := scaleOf_one hNonzero
  have hSteps : (2 : ℚ) ^ 52 ≤ stepsOf n.natAbs 1 := by
    exact_mod_cast le_stepsOf hPositive one_pos (by omega)
  have hUnit : (2 : ℚ) ≤ 2 ^ scaleOf n.natAbs 1 := by
    calc (2 : ℚ) = 2 ^ (1 : ℤ) := (zpow_one 2).symm
      _ ≤ 2 ^ scaleOf n.natAbs 1 := zpow_le_zpow_right₀ (by decide) (by omega)
  rw [size_ofInt h hNonzero]
  calc (2 : ℚ) ^ 53 = 2 ^ 52 * 2 := pow_succ 2 52
    _ ≤ stepsOf n.natAbs 1 * 2 ^ scaleOf n.natAbs 1 :=
      mul_le_mul hSteps hUnit (by norm_num) (by positivity)

/-- An integer of 64 bits is moved by at most half of the widest step below two to the 63. -/
theorem abs_value_ofInt_sub_le (lower : -2 ^ 63 ≤ n) (upper : n < 2 ^ 63) :
    |(ofInt n).value - n| ≤ 512 := by
  have hBound : n.natAbs < 2 ^ 64 := by omega
  rcases eq_or_ne n 0 with rfl | hNonzero
  · rw [value_ofInt, size_zero (by decide)]
    simp [signed]
  rcases eq_or_lt_of_le lower with rfl | hAbove
  · have hSize : (ofInt (-2 ^ 63)).size = 2 ^ 52 * 2 ^ (11 : ℤ) := by
      rw [size, (by decide +kernel : (ofInt (-2 ^ 63)).significand = 2 ^ 52),
        (by decide +kernel : (ofInt (-2 ^ 63)).exponent = 11)]
      norm_num
    rw [value_ofInt, hSize]
    norm_num [signed]
  · have hLog : n.natAbs.log2 < 63 :=
      (Nat.log2_lt (Int.natAbs_ne_zero.mpr hNonzero)).mpr (by omega)
    have hScale : scaleOf n.natAbs 1 = n.natAbs.log2 - 52 := scaleOf_one hNonzero
    have hRatio : ((n.natAbs : ℕ) : ℚ) = (n.natAbs : ℕ) / (1 : ℕ) := by rw [Nat.cast_one, div_one]
    rw [value_ofInt, signed_sub, size_ofInt hBound hNonzero, hRatio, error_eq]
    calc |(stepsOf n.natAbs 1 : ℚ) - (n.natAbs : ℕ) / (1 : ℕ) / 2 ^ scaleOf n.natAbs 1|
          * 2 ^ scaleOf n.natAbs 1
        ≤ 1 / 2 * 2 ^ (10 : ℤ) :=
          mul_le_mul (roundsTo_stepsOf one_pos).error_le
            (zpow_le_zpow_right₀ (by decide) (by omega)) (zpow_two_pos _).le (by norm_num)
      _ = 512 := by norm_num

end Integers

section Order

variable {m n : ℤ}

/-- Of two numbers the lower one has no greater double. -/
theorem Nearest.value_le {x y : Double} {p q : ℚ} (hx : Nearest x p) (hy : Nearest y q)
    (h : p < q) : x.value ≤ y.value := by
  by_contra hCrossed
  have hp : (x.value - p) ^ 2 ≤ (y.value - p) ^ 2 := sq_le_sq.mpr (hx.least y hy.finite)
  have hq : (y.value - q) ^ 2 ≤ (x.value - q) ^ 2 := sq_le_sq.mpr (hy.least x hx.finite)
  have hGap : 0 < x.value - y.value := sub_pos.mpr (not_le.mp hCrossed)
  have hProduct : 0 < (x.value - y.value) * (q - p) := mul_pos hGap (sub_pos.mpr h)
  linarith

theorem value_ofInt_le (hm : m.natAbs < 2 ^ 64) (hn : n.natAbs < 2 ^ 64) (h : m ≤ n) :
    (ofInt m).value ≤ (ofInt n).value := by
  rcases eq_or_lt_of_le h with rfl | hBelow
  · exact le_rfl
  · exact (nearest_ofInt hm).value_le (nearest_ofInt hn) (Int.cast_lt.mpr hBelow)

/-- Only zero has the order of zero, so integers of the same order have the same double. -/
theorem ofInt_eq_of_order_eq (hm : m.natAbs < 2 ^ 64) (hn : n.natAbs < 2 ^ 64)
    (h : (ofInt m).order = (ofInt n).order) : ofInt m = ofInt n := by
  have hmRank (nonzero : m ≠ 0) : 0 < (ofInt m).rank := rank_ofInt_pos hm nonzero
  have hnRank (nonzero : n ≠ 0) : 0 < (ofInt n).rank := rank_ofInt_pos hn nonzero
  have hSign : (ofInt m).negative = (ofInt n).negative ∧ (ofInt m).rank = (ofInt n).rank := by
    unfold order at h
    rw [negative_ofInt, negative_ofInt] at h ⊢
    by_cases hmSign : m < 0
    · have hmPositive : 0 < (ofInt m).rank := hmRank (by omega)
      by_cases hnSign : n < 0
      · simp only [hmSign, hnSign, decide_true, if_true, true_and] at h ⊢
        omega
      · simp only [hmSign, hnSign, decide_true, decide_false, if_true, if_false,
          Bool.false_eq_true] at h
        omega
    · by_cases hnSign : n < 0
      · have hnPositive : 0 < (ofInt n).rank := hnRank (by omega)
        simp only [hmSign, hnSign, decide_true, decide_false, if_true, if_false,
          Bool.false_eq_true] at h
        omega
      · simp only [hmSign, hnSign, decide_false, if_false, Bool.false_eq_true, true_and] at h ⊢
        omega
  cases hmDouble : ofInt m
  cases hnDouble : ofInt n
  rw [hmDouble, hnDouble] at hSign
  obtain ⟨rfl, rfl⟩ := hSign
  rfl

theorem lt_ofInt_iff (hm : m.natAbs < 2 ^ 64) (hn : n.natAbs < 2 ^ 64) :
    (ofInt m).lt (ofInt n) = true ↔ m < n ∧ ofInt m ≠ ofInt n := by
  have hmNumber : (ofInt m).isNaN = false := isNaN_of_isFinite (isFinite_ofInt hm)
  have hnNumber : (ofInt n).isNaN = false := isNaN_of_isFinite (isFinite_ofInt hn)
  simp only [lt, hmNumber, hnNumber, Bool.not_false, Bool.true_and, decide_eq_true_eq]
  constructor
  · intro hOrder
    refine ⟨?_, fun hSame => ?_⟩
    · by_contra hAbove
      exact absurd (value_lt_value hOrder) (value_ofInt_le hn hm (not_lt.mp hAbove)).not_gt
    · rw [hSame] at hOrder
      exact lt_irrefl _ hOrder
  · rintro ⟨hBelow, hDifferent⟩
    rcases lt_trichotomy (ofInt m).order (ofInt n).order with hLess | hEqual | hMore
    · exact hLess
    · exact absurd (ofInt_eq_of_order_eq hm hn hEqual) hDifferent
    · exact absurd (value_lt_value hMore) (value_ofInt_le hm hn hBelow.le).not_gt

theorem le_natAbs_of_ofInt_eq (hn : n.natAbs < 2 ^ 64)
    (different : m ≠ n) (same : ofInt m = ofInt n) : 2 ^ 53 ≤ m.natAbs := by
  by_contra hSmall
  have hmSize : (ofInt m).size = (m.natAbs : ℕ) := size_ofInt_of_small (not_le.mp hSmall)
  have hSign : decide (m < 0) = decide (n < 0) := by
    rw [← negative_ofInt, ← negative_ofInt, same]
  rw [same] at hmSize
  rcases lt_or_ge n.natAbs (2 ^ 53) with hnSmall | hnLarge
  · have hSizes : m.natAbs = n.natAbs := by
      exact_mod_cast hmSize.symm.trans (size_ofInt_of_small hnSmall)
    simp only [decide_eq_decide] at hSign
    omega
  · have hSizes : 2 ^ 53 ≤ m.natAbs := by
      exact_mod_cast hmSize ▸ le_size_ofInt_of_large hn hnLarge
    omega

theorem natAbs_sub_le_of_ofInt_eq (hm : -2 ^ 63 ≤ m ∧ m < 2 ^ 63) (hn : -2 ^ 63 ≤ n ∧ n < 2 ^ 63)
    (same : ofInt m = ofInt n) : (m - n).natAbs ≤ 1024 := by
  have hmMoved : |(ofInt m).value - m| ≤ 512 := abs_value_ofInt_sub_le hm.1 hm.2
  have hnMoved : |(ofInt n).value - n| ≤ 512 := abs_value_ofInt_sub_le hn.1 hn.2
  rw [same, abs_le] at hmMoved
  rw [abs_le] at hnMoved
  have hUpper : m - n ≤ 1024 := by
    have hCast : (m : ℚ) - n ≤ 1024 := by linarith
    exact_mod_cast hCast
  have hLower : n - m ≤ 1024 := by
    have hCast : (n : ℚ) - m ≤ 1024 := by linarith
    exact_mod_cast hCast
  omega

end Order

end Intake.Double
