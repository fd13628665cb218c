import Intake.Text.Blank
import Intake.Text.Digits

/-! # Numerals read back

A written number is a run of digits that reads as the number, with zeros in front or without.
-/

namespace Intake.Text

variable {n width : Nat} {c : Char}

theorem digitValue_lt (h : isDigit c = true) : digitValue c < 10 := by
  simp only [isDigit, Bool.and_eq_true, decide_eq_true_eq] at h
  have hLe : c.toNat ≤ '9'.toNat := h.2
  have hNine : '9'.toNat = '0'.toNat + 9 := rfl
  unfold digitValue
  omega

theorem digitsFrom_eq_ofDigitChars (start : Nat) (digits : List Char) :
    digitsFrom start digits = Nat.ofDigitChars 10 digits start := by
  simp only [digitsFrom, Nat.ofDigitChars_eq_foldl, digitValue, Nat.mul_comm]

theorem digitsFrom_append (front back : List Char) :
    digitsFrom 0 (front ++ back) = digitsFrom 0 front * 10 ^ back.length + digitsFrom 0 back := by
  rw [digitsFrom_eq_ofDigitChars, digitsFrom_eq_ofDigitChars, digitsFrom_eq_ofDigitChars,
    Nat.ofDigitChars_append, Nat.ofDigitChars_eq_ofDigitChars_zero, Nat.mul_comm]

theorem digitsFrom_cons (c : Char) (rest : List Char) :
    digitsFrom 0 (c :: rest) = digitValue c * 10 ^ rest.length + digitsFrom 0 rest := by
  have hOne : digitsFrom 0 [c] = digitValue c := by simp [digitsFrom]
  rw [← hOne, ← digitsFrom_append, List.singleton_append]

theorem digitsFrom_lt {digits : List Char} (h : digits.all isDigit = true) :
    digitsFrom 0 digits < 10 ^ digits.length := by
  induction digits with
  | nil => decide
  | cons c rest ih =>
    rw [List.all_cons, Bool.and_eq_true] at h
    have hHead : digitValue c ≤ 9 := Nat.le_of_lt_succ (digitValue_lt h.1)
    have hRest : digitsFrom 0 rest < 10 ^ rest.length := ih h.2
    have hLe : digitValue c * 10 ^ rest.length ≤ 9 * 10 ^ rest.length :=
      Nat.mul_le_mul_right _ hHead
    rw [digitsFrom_cons, List.length_cons, Nat.pow_succ]
    omega

theorem le_digitsFrom (start : Nat) (digits : List Char) : start ≤ digitsFrom start digits := by
  induction digits generalizing start with
  | nil => exact Nat.le_refl _
  | cons c rest ih =>
    have hRest : start * 10 + digitValue c ≤ digitsFrom start (c :: rest) := ih _
    omega

theorem digitValue_inj {a b : Char} (ha : isDigit a = true) (hb : isDigit b = true)
    (h : digitValue a = digitValue b) : a = b := by
  simp only [isDigit, Bool.and_eq_true, decide_eq_true_eq] at ha hb
  have hLowerA : '0'.toNat ≤ a.toNat := ha.1
  have hLowerB : '0'.toNat ≤ b.toNat := hb.1
  unfold digitValue at h
  exact Char.toNat_inj.mp (by omega)

/-- Runs of digits of one length are told apart by their values. -/
theorem digitsFrom_inj {xs ys : List Char} (hx : xs.all isDigit = true) (hy : ys.all isDigit = true)
    (length : xs.length = ys.length) (h : digitsFrom 0 xs = digitsFrom 0 ys) : xs = ys := by
  induction xs generalizing ys with
  | nil => exact (List.length_eq_zero_iff.mp length.symm).symm
  | cons x xs ih =>
    cases ys with
    | nil => cases length
    | cons y ys =>
      rw [List.all_cons, Bool.and_eq_true] at hx hy
      have hLength : xs.length = ys.length := Nat.succ.inj length
      have hPositive : 0 < 10 ^ ys.length := Nat.pow_pos (by decide)
      have hRestX : digitsFrom 0 xs < 10 ^ ys.length := hLength ▸ digitsFrom_lt hx.2
      have hRestY : digitsFrom 0 ys < 10 ^ ys.length := digitsFrom_lt hy.2
      rw [digitsFrom_cons, digitsFrom_cons, hLength] at h
      have hFirst (first : Nat) {others : Nat} (hOthers : others < 10 ^ ys.length) :
          (first * 10 ^ ys.length + others) / 10 ^ ys.length = first := by
        rw [Nat.add_comm, Nat.add_mul_div_right _ _ hPositive, Nat.div_eq_of_lt hOthers,
          Nat.zero_add]
      have hHead : digitValue x = digitValue y := by
        rw [← hFirst (digitValue x) hRestX, h, hFirst _ hRestY]
      rw [hHead] at h
      rw [digitValue_inj hx.1 hy.1 hHead, ih hx.2 hy.2 hLength (Nat.add_left_cancel h)]

theorem isDigit_of_mem_decimal (h : c ∈ decimal n) : isDigit c = true :=
  Nat.isDigit_of_mem_toDigits (by decide) (by decide) h

theorem isDigit_of_mem_padded (h : c ∈ padded width (decimal n)) : isDigit c = true := by
  rcases List.mem_append.mp h with h | h
  · rw [(List.mem_replicate.mp h).2]
    rfl
  · exact isDigit_of_mem_decimal h

theorem digitsFrom_padded : digitsFrom 0 (padded width (decimal n)) = n := by
  rw [digitsFrom_eq_ofDigitChars, padded, Nat.ofDigitChars_append,
    Nat.ofDigitChars_replicate_zero, Nat.mul_zero, decimal, Nat.ofDigitChars_ten_toDigits]

theorem length_padded (hWidth : 0 < width) (h : n < 10 ^ width) :
    (padded width (decimal n)).length = width := by
  have hLength : (decimal n).length ≤ width :=
    (Nat.length_toDigits_le_iff (by decide) hWidth).mpr h
  rw [padded, List.length_append, List.length_replicate]
  omega

/-- A run of digits is its value, written with as many digits. -/
theorem padded_digitsFrom {run : List Char} (nonempty : 0 < run.length)
    (h : run.all isDigit = true) : padded run.length (decimal (digitsFrom 0 run)) = run := by
  refine digitsFrom_inj ?_ h (length_padded nonempty (digitsFrom_lt h)) digitsFrom_padded
  exact List.all_eq_true.mpr fun _ => isDigit_of_mem_padded

theorem decimal_ne_nil (n : Nat) : decimal n ≠ [] := Nat.toDigits_ne_nil

theorem padded_ne_nil : padded width (decimal n) ≠ [] :=
  List.append_ne_nil_of_right_ne_nil _ (decimal_ne_nil n)

theorem lt_pow_length_decimal (n : Nat) : n < 10 ^ (decimal n).length :=
  (Nat.length_toDigits_le_iff (by decide) Nat.length_toDigits_pos).mp (Nat.le_refl _)

theorem pow_length_decimal_le (h : 0 < n) : 10 ^ ((decimal n).length - 1) ≤ n := by
  by_cases hLength : 0 < (decimal n).length - 1
  · refine Nat.le_of_not_lt fun hLt => ?_
    have hShorter : (decimal n).length ≤ (decimal n).length - 1 :=
      (Nat.length_toDigits_le_iff (by decide) hLength).mpr hLt
    omega
  · rw [Nat.eq_zero_of_not_pos hLength]
    exact h

theorem isBlank_of_isDigit {c : Char} (h : isDigit c = true) : isBlank c = false := by
  have hBlank : ∀ n < 10, isBlank (Char.ofNat (48 + n)) = false := by decide
  simp only [isDigit, Bool.and_eq_true, decide_eq_true_eq] at h
  have hLower : 48 ≤ c.toNat := h.1
  have hUpper : c.toNat ≤ 57 := h.2
  have hChar : Char.ofNat (48 + (c.toNat - 48)) = c := by
    rw [Nat.add_sub_cancel' hLower, Char.ofNat_toNat]
  rw [← hChar]
  exact hBlank _ (by omega)

theorem natural?_decimal (n : Nat) : natural? (decimal n) = some n := by
  have hDigits : (decimal n).all isDigit = true :=
    List.all_eq_true.mpr fun _ hMem => isDigit_of_mem_decimal hMem
  rw [natural?, if_pos ⟨decimal_ne_nil n, hDigits⟩, digitsFrom_eq_ofDigitChars, decimal,
    Nat.ofDigitChars_ten_toDigits]

theorem word64?_decimal (h : n < 2 ^ 64) : word64? (decimal n) = some n := by
  unfold word64?
  split
  · next digits hPlus =>
    have hSign : isDigit '+' = true := isDigit_of_mem_decimal (hPlus ▸ List.mem_cons_self)
    cases hSign
  · rw [natural?_decimal, Option.filter_some, if_pos (by simpa using h)]

/-- There is nothing to trim where no character is blank. -/
theorem trim_of_visible {text : List Char} (h : ∀ c ∈ text, isBlank c = false) :
    trim text = text := by
  have hStart {text : List Char} (h : ∀ c ∈ text, isBlank c = false) : trimStart text = text := by
    cases text with
    | nil => rfl
    | cons c rest => exact List.dropWhile_cons_of_neg (by simp [h c List.mem_cons_self])
  rw [trim, hStart h, trimEnd, hStart fun c hMem => h c (List.mem_reverse.mp hMem),
    List.reverse_reverse]

theorem takeWhile_isDigit_padded {rest : List Char} (h : isDigit c = false) :
    (padded width (decimal n) ++ c :: rest).takeWhile isDigit = padded width (decimal n) := by
  rw [List.takeWhile_append_of_pos fun _ => isDigit_of_mem_padded,
    List.takeWhile_cons_of_neg (by simp [h]), List.append_nil]

theorem dropWhile_isDigit_padded {rest : List Char} (h : isDigit c = false) :
    (padded width (decimal n) ++ c :: rest).dropWhile isDigit = c :: rest := by
  rw [List.dropWhile_append_of_pos fun _ => isDigit_of_mem_padded,
    List.dropWhile_cons_of_neg (by simp [h])]

end Intake.Text
