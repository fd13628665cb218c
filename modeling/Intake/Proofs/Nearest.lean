import Intake.Double.Rounding
import Mathlib.Algebra.Order.Field.Power
import Mathlib.Data.Rat.Cast.Order
import Mathlib.Tactic.FieldSimp
import Mathlib.Tactic.Linarith
import Mathlib.Tactic.Positivity
import Mathlib.Tactic.Ring

/-! # The nearest double

The rank that a ratio is rounded to is that of every double in whose interval the ratio lies. The
interval reaches half way to the neighbours of the double, its ends included when its significand
is even.
-/

namespace Intake.Double

/-- No natural number is nearer to `w` than `k`; of two that are as near, `k` is the even one. -/
structure RoundsTo (w : ℚ) (k : ℕ) : Prop where
  lower : (k : ℚ) - 1 / 2 ≤ w
  upper : w ≤ k + 1 / 2
  inside : k % 2 = 0 ∨ (k : ℚ) - 1 / 2 < w ∧ w < k + 1 / 2

section Counts

variable {w : ℚ} {j k : ℕ}

/-- Numbers next to each other are not both even, and only even ones reach half way. -/
theorem RoundsTo.not_succ (h : RoundsTo w k) : ¬RoundsTo w (k + 1) := by
  intro hNext
  have hLower := hNext.lower
  have hInside := hNext.inside
  push_cast at hLower hInside
  rcases h.inside with hEven | hStrict
  · rcases hInside with hEven' | hStrict'
    · omega
    · linarith [h.upper]
  · linarith

theorem RoundsTo.le_succ (hj : RoundsTo w j) (hk : RoundsTo w k) : j ≤ k + 1 := by
  have hCast : (j : ℚ) ≤ (k + 1 : ℕ) := by
    push_cast
    linarith [hj.lower, hk.upper]
  exact_mod_cast hCast

theorem RoundsTo.unique (hj : RoundsTo w j) (hk : RoundsTo w k) : j = k := by
  have hUpper : j ≤ k + 1 := hj.le_succ hk
  have hLower : k ≤ j + 1 := hk.le_succ hj
  rcases (by omega : j = k ∨ j = k + 1 ∨ k = j + 1) with hSame | rfl | rfl
  · exact hSame
  · exact (hk.not_succ hj).elim
  · exact (hj.not_succ hk).elim

end Counts

theorem roundsTo_roundedRatio {n d : ℕ} (positive : 0 < d) :
    RoundsTo ((n : ℚ) / d) (roundedRatio n d) := by
  have hPositive : (0 : ℚ) < d := by exact_mod_cast positive
  have hDivision : ((n / d : ℕ) : ℚ) * d + (n % d : ℕ) = n := by exact_mod_cast Nat.div_add_mod' n d
  have hRatio : (n : ℚ) / d = (n / d : ℕ) + (n % d : ℕ) / d := by
    rw [← hDivision, add_div, mul_div_cancel_right₀ _ hPositive.ne']
  have hRest : (0 : ℚ) ≤ (n % d : ℕ) / d := by positivity
  have hBelow : ((n % d : ℕ) : ℚ) / d < 1 := by
    rw [div_lt_one hPositive]
    exact_mod_cast Nat.mod_lt n positive
  rw [hRatio]
  unfold roundedRatio
  dsimp only
  split
  · next hLess =>
    have hHalf : ((n % d : ℕ) : ℚ) / d < 1 / 2 := by
      rw [div_lt_div_iff₀ hPositive two_pos]
      exact_mod_cast (by omega : n % d * 2 < 1 * d)
    exact ⟨by linarith, by linarith, .inr ⟨by linarith, by linarith⟩⟩
  · split
    · next hMore =>
      have hHalf : 1 / 2 < ((n % d : ℕ) : ℚ) / d := by
        rw [div_lt_div_iff₀ two_pos hPositive]
        exact_mod_cast (by omega : 1 * d < n % d * 2)
      refine ⟨?_, ?_, .inr ⟨?_, ?_⟩⟩ <;>
      · push_cast
        linarith
    · have hHalf : ((n % d : ℕ) : ℚ) / d = 1 / 2 := by
        rw [div_eq_div_iff hPositive.ne' two_ne_zero]
        exact_mod_cast (by omega : n % d * 2 = 1 * d)
      split
      · next hEven => exact ⟨by linarith, by linarith, .inl hEven⟩
      · next hOdd =>
        refine ⟨?_, ?_, .inl (by omega)⟩ <;>
        · push_cast
          linarith

/-- The steps of two to the `scale` in a ratio, rounded. -/
def stepsAt (n d : ℕ) : ℤ → ℕ
  | .ofNat e => roundedRatio n (d * 2 ^ e)
  | .negSucc e => roundedRatio (n * 2 ^ (e + 1)) d

theorem rankOfRatio_of_pos {n d : ℕ} (hn : 0 < n) (hd : 0 < d) :
    rankOfRatio n d =
      (max (log2Ratio n d - 52) (-1074) + 1074).toNat * 2 ^ 52 +
        stepsAt n d (max (log2Ratio n d - 52) (-1074)) := by
  rw [rankOfRatio, if_neg (by omega)]
  rfl

theorem stepsAt_roundsTo {n d : ℕ} (positive : 0 < d) (scale : ℤ) :
    RoundsTo ((n : ℚ) / d / 2 ^ scale) (stepsAt n d scale) := by
  cases scale with
  | ofNat e =>
    have hSteps : RoundsTo ((n : ℚ) / (d * 2 ^ e : ℕ)) (roundedRatio n (d * 2 ^ e)) :=
      roundsTo_roundedRatio (Nat.mul_pos positive (Nat.pow_pos (by decide)))
    rw [stepsAt, Int.ofNat_eq_natCast, zpow_natCast, div_div]
    exact_mod_cast hSteps
  | negSucc e =>
    have hSteps : RoundsTo (((n * 2 ^ (e + 1) : ℕ) : ℚ) / d) (roundedRatio (n * 2 ^ (e + 1)) d) :=
      roundsTo_roundedRatio positive
    rw [stepsAt, zpow_negSucc, div_inv_eq_mul, div_mul_eq_mul_div]
    exact_mod_cast hSteps

theorem stepsAt_eq {n d k : ℕ} {scale : ℤ} (positive : 0 < d)
    (h : RoundsTo ((n : ℚ) / d / 2 ^ scale) k) : stepsAt n d scale = k :=
  (stepsAt_roundsTo positive scale).unique h

theorem zpow_two_pos (e : ℤ) : (0 : ℚ) < 2 ^ e := zpow_pos (by decide) e

theorem zpow_two_add (a b : ℤ) : (2 : ℚ) ^ (a + b) = 2 ^ a * 2 ^ b := zpow_add₀ (by decide) a b

theorem zpow_log2 {n : ℕ} (positive : 0 < n) :
    (2 : ℚ) ^ (n.log2 : ℤ) ≤ n ∧ (n : ℚ) < 2 ^ ((n.log2 : ℤ) + 1) := by
  have hLower : 2 ^ n.log2 ≤ n := Nat.log2_self_le positive.ne'
  have hUpper : n < 2 ^ (n.log2 + 1) := Nat.lt_log2_self
  constructor
  · rw [zpow_natCast]
    exact_mod_cast hLower
  · rw [← Nat.cast_succ, zpow_natCast]
    exact_mod_cast hUpper

/-- Whether a ratio reaches a power of two, in whole numbers. -/
def reaches (n d : ℕ) : ℤ → Bool
  | .ofNat e => decide (d * 2 ^ e ≤ n)
  | .negSucc e => decide (d ≤ n * 2 ^ (e + 1))

theorem log2Ratio_eq (n d : ℕ) :
    log2Ratio n d = if reaches n d ((n.log2 : ℤ) - d.log2) = true then (n.log2 : ℤ) - d.log2
      else (n.log2 : ℤ) - d.log2 - 1 := rfl

theorem reaches_iff {n d : ℕ} (positive : 0 < d) (e : ℤ) :
    reaches n d e = true ↔ (2 : ℚ) ^ e ≤ (n : ℚ) / d := by
  have hPositive : (0 : ℚ) < d := by exact_mod_cast positive
  cases e with
  | ofNat e =>
    rw [reaches, decide_eq_true_eq, Int.ofNat_eq_natCast, zpow_natCast, le_div_iff₀ hPositive,
      mul_comm]
    exact_mod_cast Iff.rfl
  | negSucc e =>
    rw [reaches, decide_eq_true_eq, zpow_negSucc, le_div_iff₀ hPositive,
      inv_mul_le_iff₀ (by positivity), mul_comm n]
    exact_mod_cast Iff.rfl

/-- The ratio lies between the power of two that is found and the next one. -/
theorem zpow_log2Ratio {n d : ℕ} (hn : 0 < n) (hd : 0 < d) :
    (2 : ℚ) ^ log2Ratio n d ≤ (n : ℚ) / d ∧ (n : ℚ) / d < 2 ^ (log2Ratio n d + 1) := by
  obtain ⟨hnLower, hnUpper⟩ := zpow_log2 hn
  obtain ⟨hdLower, hdUpper⟩ := zpow_log2 hd
  have hPositive : (0 : ℚ) < d := by exact_mod_cast hd
  have hBelow : (2 : ℚ) ^ ((n.log2 : ℤ) - d.log2 - 1) ≤ (n : ℚ) / d := by
    rw [le_div_iff₀ hPositive]
    calc (2 : ℚ) ^ ((n.log2 : ℤ) - d.log2 - 1) * d
        ≤ 2 ^ ((n.log2 : ℤ) - d.log2 - 1) * 2 ^ ((d.log2 : ℤ) + 1) :=
          mul_le_mul_of_nonneg_left hdUpper.le (zpow_two_pos _).le
      _ = 2 ^ (n.log2 : ℤ) := by rw [← zpow_two_add]; congr 1; ring
      _ ≤ n := hnLower
  have hAbove : (n : ℚ) / d < 2 ^ ((n.log2 : ℤ) - d.log2 + 1) := by
    rw [div_lt_iff₀ hPositive]
    calc (n : ℚ) < 2 ^ ((n.log2 : ℤ) + 1) := hnUpper
      _ = 2 ^ ((n.log2 : ℤ) - d.log2 + 1) * 2 ^ (d.log2 : ℤ) := by
        rw [← zpow_two_add]
        congr 1
        ring
      _ ≤ 2 ^ ((n.log2 : ℤ) - d.log2 + 1) * d :=
          mul_le_mul_of_nonneg_left hdLower (zpow_two_pos _).le
  rw [log2Ratio_eq]
  split
  · next hReached => exact ⟨(reaches_iff hd _).mp hReached, hAbove⟩
  · next hReached =>
    refine ⟨hBelow, ?_⟩
    rw [sub_add_cancel]
    exact lt_of_not_ge fun h => hReached ((reaches_iff hd _).mpr h)

theorem le_of_zpow_lt {a b : ℤ} {q : ℚ} (hLower : (2 : ℚ) ^ a ≤ q) (hUpper : q < 2 ^ (b + 1)) :
    a ≤ b :=
  Int.lt_add_one_iff.mp ((zpow_lt_zpow_iff_right₀ (by decide)).mp (hLower.trans_lt hUpper))

section Parts

variable {x : Double}

theorem isNaN_of_isFinite (finite : x.isFinite = true) : x.isNaN = false := by
  rw [isFinite, decide_eq_true_eq] at finite
  rw [isNaN, decide_eq_false_iff_not]
  omega

/-- How a finite double is made of its parts. -/
theorem rank_eq_parts (x : Double) :
    x.rank = (x.exponent + 1074).toNat * 2 ^ 52 + x.significand ∧ -1074 ≤ x.exponent ∧
      x.significand < 2 ^ 53 ∧ (-1074 < x.exponent ↔ 2 ^ 53 ≤ x.rank) ∧
      (-1074 < x.exponent → 2 ^ 52 ≤ x.significand) := by
  unfold exponent significand
  split
  · omega
  · omega

theorem significand_pos (positive : 0 < x.rank) : 0 < x.significand := by
  unfold significand
  split <;> omega

/-- How far the interval of a double reaches below it, in units of its last place: the gap below a
power of two is half of the gap above it. -/
def gapBelow (x : Double) : ℚ := if x.significand = 2 ^ 52 ∧ 2 ^ 53 ≤ x.rank then 1 / 4 else 1 / 2

theorem gapBelow_le (x : Double) : 1 / 4 ≤ x.gapBelow ∧ x.gapBelow ≤ 1 / 2 := by
  unfold gapBelow
  split <;> norm_num

/-- The interval of a double, of either sign. -/
structure Near (x : Double) (q : ℚ) : Prop where
  lower : x.significand - x.gapBelow ≤ q / 2 ^ x.exponent
  upper : q / 2 ^ x.exponent ≤ x.significand + 1 / 2
  inside : x.significand % 2 = 0 ∨
    x.significand - x.gapBelow < q / 2 ^ x.exponent ∧ q / 2 ^ x.exponent < x.significand + 1 / 2

theorem Near.roundsTo {q : ℚ} (h : x.Near q) : RoundsTo (q / 2 ^ x.exponent) x.significand := by
  have hGap : x.gapBelow ≤ 1 / 2 := x.gapBelow_le.2
  refine ⟨by linarith [h.lower], h.upper, h.inside.imp_right fun ⟨h₁, h₂⟩ => ⟨by linarith, h₂⟩⟩

/-- Below a power of two the ratio is counted in steps of half the size. -/
theorem Near.roundsTo_half {q : ℚ} (h : x.Near q) (power : x.significand = 2 ^ 52)
    (above : 2 ^ 53 ≤ x.rank) (below : q / 2 ^ x.exponent < 2 ^ 52) :
    RoundsTo (q / 2 ^ (x.exponent - 1)) (2 ^ 53) := by
  have hLower : (2 ^ 52 : ℚ) - 1 / 4 ≤ q / 2 ^ x.exponent := by
    have hLower := h.lower
    rw [gapBelow, if_pos ⟨power, above⟩, power] at hLower
    exact_mod_cast hLower
  have hTwice : q / 2 ^ (x.exponent - 1) = 2 * (q / 2 ^ x.exponent) := by
    rw [zpow_sub_one₀ (by decide)]
    field_simp
  have hPower : ((2 ^ 53 : ℕ) : ℚ) = 2 * 2 ^ 52 := by norm_num
  rw [hTwice]
  refine ⟨?_, ?_, .inl (by decide)⟩
  · rw [hPower]
    linarith
  · rw [hPower]
    linarith

theorem Near.pos {q : ℚ} (h : x.Near q) (positive : 0 < x.rank) : 0 < q := by
  have hSignificand : (1 : ℚ) ≤ x.significand := by exact_mod_cast significand_pos positive
  have hScaled : 0 < q / 2 ^ x.exponent := by linarith [h.lower, x.gapBelow_le.2]
  exact (div_pos_iff_of_pos_right (zpow_two_pos _)).mp hScaled

/-- A ratio in the interval of a double has that double as the nearest one. -/
theorem rankOfRatio_eq {n d : ℕ} (hd : 0 < d) (positive : 0 < x.rank) (h : x.Near ((n : ℚ) / d)) :
    rankOfRatio n d = x.rank := by
  obtain ⟨hRank, hLeast, hSignificand, hAbove, hNormal⟩ := x.rank_eq_parts
  have hRatio : (0 : ℚ) < (n : ℚ) / d := h.pos positive
  have hn : 0 < n := by
    rw [Nat.pos_iff_ne_zero]
    rintro rfl
    simp at hRatio
  obtain ⟨hLogLower, hLogUpper⟩ := zpow_log2Ratio hn hd
  have hUnit : (0 : ℚ) < 2 ^ x.exponent := zpow_two_pos _
  have hSplit (k : ℤ) : (2 : ℚ) ^ (x.exponent + k) = 2 ^ k * 2 ^ x.exponent := by
    rw [zpow_two_add, mul_comm]
  have hUpper : (n : ℚ) / d < 2 ^ (x.exponent + 52 + 1) := by
    have hSuccessor : (x.significand : ℚ) + 1 ≤ 2 ^ 53 := by exact_mod_cast hSignificand
    have hTop : (n : ℚ) / d / 2 ^ x.exponent < 2 ^ 53 := by linarith [h.upper]
    rw [add_assoc, hSplit]
    exact (div_lt_iff₀ hUnit).mp hTop
  have hLog : log2Ratio n d ≤ x.exponent + 52 := le_of_zpow_lt hLogLower hUpper
  rw [rankOfRatio_of_pos hn hd]
  by_cases hReached : (2 ^ 52 : ℚ) ≤ (n : ℚ) / d / 2 ^ x.exponent
  · -- The ratio has as many digits before the point as the significand.
    have hLogEq : x.exponent + 52 ≤ log2Ratio n d := by
      refine le_of_zpow_lt ?_ hLogUpper
      rw [hSplit]
      exact (le_div_iff₀ hUnit).mp hReached
    have hScale : max (log2Ratio n d - 52) (-1074) = x.exponent := by omega
    rw [hScale, stepsAt_eq hd h.roundsTo]
    omega
  · have hBelow : (n : ℚ) / d / 2 ^ x.exponent < 2 ^ 52 := lt_of_not_ge hReached
    by_cases hExponent : -1074 < x.exponent
    · -- The ratio lies right below the power of two that the double is.
      have hPower : x.significand = 2 ^ 52 := by
        have hSmall : (x.significand : ℚ) < (2 ^ 52 + 1 : ℕ) := by
          push_cast
          linarith [h.lower, x.gapBelow_le.2]
        have hSmall' : x.significand < 2 ^ 52 + 1 := by exact_mod_cast hSmall
        have hLarge : 2 ^ 52 ≤ x.significand := hNormal hExponent
        omega
      have hHalf : RoundsTo ((n : ℚ) / d / 2 ^ (x.exponent - 1)) (2 ^ 53) :=
        h.roundsTo_half hPower (hAbove.mp hExponent) hBelow
      have hLogEq : x.exponent + 51 ≤ log2Ratio n d := by
        have hLower : (2 ^ 51 : ℚ) ≤ (n : ℚ) / d / 2 ^ x.exponent := by
          have hCast : (x.significand : ℚ) = 2 ^ 52 := by exact_mod_cast hPower
          linarith [h.lower, x.gapBelow_le.2]
        refine le_of_zpow_lt ?_ hLogUpper
        rw [hSplit]
        exact (le_div_iff₀ hUnit).mp hLower
      have hLogLt : log2Ratio n d ≤ x.exponent + 51 := by
        refine le_of_zpow_lt hLogLower ?_
        rw [add_assoc, hSplit]
        exact (div_lt_iff₀ hUnit).mp hBelow
      have hScale : max (log2Ratio n d - 52) (-1074) = x.exponent - 1 := by omega
      rw [hScale, stepsAt_eq hd hHalf]
      omega
    · have hScale : max (log2Ratio n d - 52) (-1074) = x.exponent := by omega
      rw [hScale, stepsAt_eq hd h.roundsTo]
      omega

end Parts

end Intake.Double
