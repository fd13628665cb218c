import Intake.Double.Arithmetic
import Intake.Proofs.RoundedIntegers

/-! # Doubles times powers of ten

A product or a quotient is the double in whose interval the exact one lies. Up to the power 22 the
powers of ten are doubles, and so is every integer of 53 bits: then one rounding is all there is,
and what is scaled is the nearest double.
-/

namespace Intake.Double

variable {x y z : Double}

theorem ratio_eq_size (x : Double) : 0 < x.ratio.2 ∧ (x.ratio.1 : ℚ) / x.ratio.2 = x.size := by
  unfold ratio size
  cases x.exponent with
  | ofNat e =>
    refine ⟨Nat.one_pos, ?_⟩
    push_cast
    rw [div_one, Int.ofNat_eq_natCast, zpow_natCast]
  | negSucc e =>
    refine ⟨Nat.two_pow_pos _, ?_⟩
    push_cast
    rw [zpow_negSucc, div_eq_mul_inv]

theorem ratio_ne_zero (positive : 0 < y.rank) : 0 < y.ratio.1 := by
  have hSize : 0 < (y.ratio.1 : ℚ) / y.ratio.2 := y.ratio_eq_size.2 ▸ size_pos positive
  rw [Nat.pos_iff_ne_zero]
  intro hZero
  rw [hZero] at hSize
  simp at hSize

theorem ofRatio_eq {n d : ℕ} (hd : 0 < d) (positive : 0 < x.rank) (finite : x.isFinite = true)
    (h : x.Near ((n : ℚ) / d)) : ofRatio x.negative n d = x := by
  have hRank : x.rank < infinityRank := of_decide_eq_true finite
  rw [ofRatio, rankOfRatio_eq hd positive h, Nat.min_eq_left hRank.le, ofRank, dif_pos x.rank_lt]

section Operations

variable (sign : (x.negative != y.negative) = z.negative) (positive : 0 < z.rank)
  (finite : z.isFinite = true)

include sign positive finite

theorem times_eq (h : z.Near (x.size * y.size)) : x.times y = z := by
  obtain ⟨hx, hxSize⟩ := x.ratio_eq_size
  obtain ⟨hy, hySize⟩ := y.ratio_eq_size
  rw [times, sign]
  refine ofRatio_eq (Nat.mul_pos hx hy) positive finite ?_
  push_cast
  rwa [← div_mul_div_comm, hxSize, hySize]

theorem dividedBy_eq (divisor : 0 < y.rank) (h : z.Near (x.size / y.size)) : x.dividedBy y = z := by
  obtain ⟨hx, hxSize⟩ := x.ratio_eq_size
  obtain ⟨hy, hySize⟩ := y.ratio_eq_size
  rw [dividedBy, sign]
  refine ofRatio_eq (Nat.mul_pos hx (ratio_ne_zero divisor)) positive finite ?_
  push_cast
  rwa [← div_div_div_eq, hxSize, hySize]

end Operations

theorem ratio_powerOfTen : ((List.range 23).all fun k =>
    (powerOfTen k).ratio.1 == 10 ^ k * (powerOfTen k).ratio.2) = true := by
  decide +kernel

theorem size_powerOfTen {k : ℕ} (small : k ≤ 22) : (powerOfTen k).size = 10 ^ k := by
  obtain ⟨hDenominator, hSize⟩ := (powerOfTen k).ratio_eq_size
  have hRatio : (powerOfTen k).ratio.1 = 10 ^ k * (powerOfTen k).ratio.2 := by
    simpa using List.all_eq_true.mp ratio_powerOfTen k (List.mem_range.mpr (by omega))
  have hPositive : ((powerOfTen k).ratio.2 : ℚ) ≠ 0 := by exact_mod_cast hDenominator.ne'
  rw [← hSize, hRatio]
  push_cast
  exact mul_div_cancel_right₀ _ hPositive

theorem rank_pos_of_size_pos (h : 0 < x.size) : 0 < x.rank := by
  rw [Nat.pos_iff_ne_zero]
  intro hZero
  rw [size_zero hZero] at h
  exact h.false

/-- A word of 53 bits times a power of ten that is a double, rounded once. -/
theorem scaled?_ofInt {word : ℕ} {power : ℤ} (short : word < 2 ^ 53) (small : power.natAbs ≤ 22)
    (sign : z.negative = false) (positive : 0 < z.rank) (finite : z.isFinite = true)
    (h : z.Near (word * 10 ^ power)) : (ofInt word).scaled? power = some z := by
  have hWord : (ofInt word).size = word := by
    have hSize := size_ofInt_of_small (n := (word : ℤ)) (by omega)
    rwa [Int.natAbs_natCast] at hSize
  have hTen : (powerOfTen power.natAbs).size = 10 ^ power.natAbs := size_powerOfTen small
  have hSign : ((ofInt word).negative != (powerOfTen power.natAbs).negative) = z.negative := by
    rw [sign, negative_ofInt, powerOfTen, negative_ofInt, decide_eq_false (by omega),
      decide_eq_false (not_lt.mpr (pow_nonneg (by decide) _))]
    rfl
  have hDivisor : 0 < (powerOfTen power.natAbs).rank :=
    rank_pos_of_size_pos (hTen ▸ by positivity)
  rw [scaled?, if_pos (by unfold greatestPower; omega)]
  have hScaled : (if 0 ≤ power then (ofInt word).times (powerOfTen power.natAbs)
      else (ofInt word).dividedBy (powerOfTen power.natAbs)) = z := by
    split
    · next hUp =>
      refine times_eq hSign positive finite ?_
      rw [hWord, hTen, ← zpow_natCast, Int.natAbs_of_nonneg hUp]
      exact h
    · next hDown =>
      refine dividedBy_eq hSign positive finite hDivisor ?_
      have hPower : (power.natAbs : ℤ) = -power := by omega
      rw [hWord, hTen, ← zpow_natCast, hPower, zpow_neg, div_inv_eq_mul]
      exact h
  dsimp only
  rw [hScaled, if_pos finite]

end Intake.Double
