import Intake.Double.Rounding

/-! # Rounded integers

Integers below two to the 64 in size are far from overflow.
-/

namespace Intake.Double

theorem roundedRatio_le (n d : Nat) : roundedRatio n d ≤ n / d + 1 := by
  unfold roundedRatio
  dsimp only
  split
  · omega
  · split
    · omega
    · split <;> omega

theorem log2Ratio_one {n : Nat} (h : n ≠ 0) : log2Ratio n 1 = n.log2 := by
  have hReached : 2 ^ n.log2 ≤ n := Nat.log2_self_le h
  have hGuess : (n.log2 : Int) - (Nat.log2 1 : Nat) = Int.ofNat n.log2 := by
    rw [show Nat.log2 1 = 0 by decide]
    simp
  unfold log2Ratio
  simp only [hGuess, Nat.one_mul, hReached, decide_true, if_true]
  rfl

/-- An integer of fewer than 53 bits is scaled up to 53. -/
theorem roundedRatio_scaledUp_le {n size e : Nat} (h : n < 2 ^ (size + 1))
    (hSum : size + 1 + (e + 1) = 53) : roundedRatio (n * 2 ^ (e + 1)) 1 ≤ 2 ^ 53 := by
  have hPower : 2 ^ (size + 1) * 2 ^ (e + 1) = 2 ^ 53 := by rw [← Nat.pow_add, hSum]
  have hScaled : n * 2 ^ (e + 1) < 2 ^ 53 :=
    hPower ▸ Nat.mul_lt_mul_of_pos_right h (Nat.pow_pos (by decide))
  have hCount : roundedRatio (n * 2 ^ (e + 1)) 1 ≤ n * 2 ^ (e + 1) / 1 + 1 := roundedRatio_le _ _
  omega

/-- An integer of 53 bits or more is scaled down to 53. -/
theorem roundedRatio_scaledDown_le {n e : Nat} (h : n < 2 ^ (52 + e + 1)) :
    roundedRatio n (1 * 2 ^ e) ≤ 2 ^ 53 := by
  have hPower : 2 ^ (52 + e + 1) = 2 ^ e * 2 ^ 53 := by
    rw [← Nat.pow_add]
    congr 1
    omega
  have hQuotient : n / (1 * 2 ^ e) < 2 ^ 53 := by
    rw [Nat.one_mul]
    exact Nat.div_lt_of_lt_mul (hPower ▸ h)
  have hCount : roundedRatio n (1 * 2 ^ e) ≤ n / (1 * 2 ^ e) + 1 := roundedRatio_le _ _
  omega

theorem rankOfRatio_one_lt {n : Nat} (h : n < 2 ^ 64) : rankOfRatio n 1 < infinityRank := by
  unfold rankOfRatio
  split
  · decide
  · next hPositive =>
    have hNonzero : n ≠ 0 := fun hZero => hPositive (.inl hZero)
    obtain ⟨size, hSize⟩ : ∃ size, n.log2 = size := ⟨_, rfl⟩
    have hLog : size < 64 := hSize ▸ (Nat.log2_lt hNonzero).mpr h
    have hUpper : n < 2 ^ (size + 1) := hSize ▸ Nat.lt_log2_self
    have hScale : max ((size : Int) - 52) (-1074) = size - 52 := by omega
    rw [log2Ratio_one hNonzero, hSize, hScale]
    rcases Nat.lt_or_ge size 52 with hSmall | hLarge
    · obtain ⟨e, hSum⟩ : ∃ e, size + 1 + (e + 1) = 53 := ⟨51 - size, by omega⟩
      have hExponent : (size : Int) - 52 = Int.negSucc e := by omega
      have hCount : roundedRatio (n * 2 ^ (e + 1)) 1 ≤ 2 ^ 53 :=
        roundedRatio_scaledUp_le hUpper hSum
      rw [hExponent]
      simp only [infinityRank]
      omega
    · obtain ⟨e, rfl⟩ : ∃ e, size = 52 + e := ⟨size - 52, by omega⟩
      have hExponent : ((52 + e : Nat) : Int) - 52 = Int.ofNat e := by
        rw [Int.ofNat_eq_natCast]
        omega
      have hCount : roundedRatio n (1 * 2 ^ e) ≤ 2 ^ 53 := roundedRatio_scaledDown_le hUpper
      rw [hExponent]
      simp only [infinityRank]
      omega

theorem negative_ofInt (n : Int) : (ofInt n).negative = decide (n < 0) := by
  unfold ofInt ofRatio ofRank
  split <;> rfl

theorem rank_ofInt {n : Int} (h : n.natAbs < 2 ^ 64) :
    (ofInt n).rank = rankOfRatio n.natAbs 1 := by
  have hRank : rankOfRatio n.natAbs 1 < infinityRank := rankOfRatio_one_lt h
  have hBound : infinityRank < 2 ^ 63 := by decide
  unfold ofInt ofRatio ofRank
  rw [Nat.min_eq_left (Nat.le_of_lt hRank), dif_pos (Nat.lt_trans hRank hBound)]

theorem isFinite_ofInt {n : Int} (h : n.natAbs < 2 ^ 64) : (ofInt n).isFinite = true := by
  rw [isFinite, rank_ofInt h]
  exact decide_eq_true (rankOfRatio_one_lt h)

theorem natAbs_toInt_lt (n : Int64) : n.toInt.natAbs < 2 ^ 64 := by
  have hLower : -2 ^ 63 ≤ n.toInt := n.le_toInt
  have hUpper : n.toInt < 2 ^ 63 := n.toInt_lt
  omega

end Intake.Double
