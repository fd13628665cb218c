import Intake.Proofs.Conformance
import Intake.Proofs.Numerals
import Intake.Proofs.RoundedIntegers

/-! # Texts of timestamps

A text is a timestamp exactly if it is a run of digits, with one sign before it or none, whose
number is one of 64 bits. A machine reads such texts in words of 64 bits and gives up at the first
step that leaves them; no text is lost that way and none is gained, for under one sign every digit
leads further away from zero. However whole seconds are represented, they are the same timestamp.
-/

namespace Intake

namespace Text

/-- A run of decimal digits, one at least. -/
structure IsRun (digits : List Char) : Prop where
  nonempty : digits ≠ []
  each : ∀ c ∈ digits, '0' ≤ c ∧ c ≤ '9'

/-- The number of a run of digits, each of them counted by its place. -/
def placeValue : List Char → Nat
  | [] => 0
  | c :: rest => (c.toNat - '0'.toNat) * 10 ^ rest.length + placeValue rest

/-- A run of digits with an optional single sign, and its number. -/
inductive Signed : List Char → Int → Prop where
  | plain {digits : List Char} (run : IsRun digits) : Signed digits (placeValue digits)
  | plus {digits : List Char} (run : IsRun digits) : Signed ('+' :: digits) (placeValue digits)
  | minus {digits : List Char} (run : IsRun digits) : Signed ('-' :: digits) (-placeValue digits)

/-- The word of 64 bits that holds a number, if there is one. -/
def word? (n : Int) : Option Int64 :=
  if -2 ^ 63 ≤ n ∧ n < 2 ^ 63 then some (Int64.ofInt n) else none

/-- A word with one more digit, led away from zero in the direction of the sign. There is none if
the number leaves 64 bits, be it with the shift alone. -/
def push? (sign : Int) (w : Int64) (c : Char) : Option Int64 :=
  if isDigit c then
    (word? (w.toInt * 10)).bind fun shifted => word? (shifted.toInt + sign * digitValue c)
  else none

def accumulate? (sign : Int) (digits : List Char) : Option Int64 :=
  if digits = [] then none else digits.foldlM (push? sign) 0

/-- A text read digit by digit in words of 64 bits. -/
def signedWord? : List Char → Option Int64
  | '+' :: digits => accumulate? 1 digits
  | '-' :: digits => accumulate? (-1) digits
  | digits => accumulate? 1 digits

variable {text digits : List Char} {c : Char}

theorem isRun_iff : IsRun digits ↔ digits ≠ [] ∧ digits.all isDigit = true := by
  simp only [isDigit, List.all_eq_true, Bool.and_eq_true, decide_eq_true_eq]
  exact ⟨fun h => ⟨h.nonempty, h.each⟩, fun h => ⟨h.1, h.2⟩⟩

theorem digitsFrom_eq_placeValue (digits : List Char) :
    digitsFrom 0 digits = placeValue digits := by
  induction digits with
  | nil => rfl
  | cons c rest ih => rw [digitsFrom_cons, ih, placeValue, digitValue]

theorem natural?_eq_some_iff {n : Nat} :
    natural? digits = some n ↔ IsRun digits ∧ placeValue digits = n := by
  rw [isRun_iff, ← digitsFrom_eq_placeValue, natural?]
  split
  · next hRun => simp [hRun]
  · next hNone => exact iff_of_false (Option.some_ne_none n).symm fun h => hNone h.1

theorem IsRun.head (run : IsRun (c :: digits)) : c ≠ '+' ∧ c ≠ '-' := by
  obtain ⟨hLower, -⟩ := run.each c List.mem_cons_self
  constructor <;> rintro rfl <;> exact absurd hLower (by decide)

theorem integer?_of_run (run : IsRun digits) :
    integer? digits = (natural? digits).map Int.ofNat := by
  unfold integer?
  split
  · next rest => exact absurd rfl run.head.1
  · next rest => exact absurd rfl run.head.2
  · rfl

theorem signedWord?_of_run (run : IsRun digits) : signedWord? digits = accumulate? 1 digits := by
  unfold signedWord?
  split
  · next rest => exact absurd rfl run.head.1
  · next rest => exact absurd rfl run.head.2
  · rfl

theorem integer?_eq_some_iff {n : Int} : integer? text = some n ↔ Signed text n := by
  constructor
  · intro h
    unfold integer? at h
    split at h <;>
    · obtain ⟨size, hSize, rfl⟩ := Option.map_eq_some_iff.mp h
      obtain ⟨hRun, rfl⟩ := natural?_eq_some_iff.mp hSize
      constructor
      exact hRun
  · intro h
    cases h with
    | plain run =>
      rw [integer?_of_run run, natural?_eq_some_iff.mpr ⟨run, rfl⟩]
      rfl
    | plus run | minus run =>
      rw [integer?, natural?_eq_some_iff.mpr ⟨run, rfl⟩]
      rfl

section Words

variable {sign : Int} {size : Nat} {v w : Int64}

theorem word?_eq_some_iff {n : Int} : word? n = some w ↔ w.toInt = n := by
  unfold word?
  split
  · next hRange =>
    have hHeld : (Int64.ofInt n).toInt = n := Int64.toInt_ofInt_of_le hRange.1 hRange.2
    rw [Option.some.injEq, ← Int64.toInt_inj, hHeld, eq_comm]
  · next hRange =>
    refine iff_of_false (Option.some_ne_none w).symm ?_
    rintro rfl
    exact hRange ⟨w.le_toInt, w.toInt_lt⟩

theorem push?_eq_some_iff (unit : sign = 1 ∨ sign = -1) (start : w.toInt = sign * size) :
    push? sign w c = some v ↔
      isDigit c = true ∧ v.toInt = sign * (size * 10 + digitValue c : Nat) := by
  unfold push?
  split
  · next hDigit =>
    rw [Option.bind_eq_some_iff, and_iff_right hDigit]
    simp only [word?_eq_some_iff]
    have hLower := v.le_toInt
    have hUpper := v.toInt_lt
    constructor
    · rintro ⟨shifted, hShifted, hSum⟩
      rcases unit with rfl | rfl <;> omega
    · intro hSum
      -- The digit leads on in the direction of the shift, which fits if the whole step does.
      have hRange : -2 ^ 63 ≤ w.toInt * 10 ∧ w.toInt * 10 < 2 ^ 63 := by
        rcases unit with rfl | rfl <;> omega
      refine ⟨Int64.ofInt (w.toInt * 10), Int64.toInt_ofInt_of_le hRange.1 hRange.2, ?_⟩
      rw [Int64.toInt_ofInt_of_le hRange.1 hRange.2]
      rcases unit with rfl | rfl <;> omega
  · next hDigit => simp [hDigit]

/-- A run is read to its end exactly if 64 bits hold its number. -/
theorem foldlM_push?_eq_some_iff (unit : sign = 1 ∨ sign = -1) (start : w.toInt = sign * size) :
    digits.foldlM (push? sign) w = some v ↔
      digits.all isDigit = true ∧ v.toInt = sign * digitsFrom size digits := by
  induction digits generalizing w size with
  | nil =>
    change some w = some v ↔ _ ∧ v.toInt = sign * size
    rw [← start, Int64.toInt_inj, Option.some.injEq, eq_comm, and_iff_right List.all_nil]
  | cons c rest ih =>
    rw [List.foldlM_cons, Option.bind_eq_bind, Option.bind_eq_some_iff, List.all_cons,
      Bool.and_eq_true]
    change _ ↔ _ ∧ v.toInt = sign * digitsFrom (size * 10 + digitValue c) rest
    constructor
    · rintro ⟨next, hPush, hRest⟩
      obtain ⟨hDigit, hNext⟩ := (push?_eq_some_iff unit start).mp hPush
      obtain ⟨hDigits, hValue⟩ := (ih hNext).mp hRest
      exact ⟨⟨hDigit, hDigits⟩, hValue⟩
    · rintro ⟨⟨hDigit, hDigits⟩, hValue⟩
      -- What is read so far is no further from zero than the number at the end of the run.
      have hGrows := le_digitsFrom (size * 10 + digitValue c) rest
      have hLower := v.le_toInt
      have hUpper := v.toInt_lt
      have hRange : -2 ^ 63 ≤ sign * (size * 10 + digitValue c : Nat) ∧
          sign * (size * 10 + digitValue c : Nat) < 2 ^ 63 := by
        rcases unit with rfl | rfl <;> omega
      have hNext := Int64.toInt_ofInt_of_le hRange.1 hRange.2
      exact ⟨_, (push?_eq_some_iff unit start).mpr ⟨hDigit, hNext⟩,
        (ih hNext).mpr ⟨hDigits, hValue⟩⟩

theorem accumulate?_eq_some_iff (unit : sign = 1 ∨ sign = -1) :
    accumulate? sign digits = some w ↔ IsRun digits ∧ w.toInt = sign * placeValue digits := by
  have hStart : (0 : Int64).toInt = sign * (0 : Nat) := by simp
  rw [isRun_iff, ← digitsFrom_eq_placeValue, accumulate?]
  split
  · next hEmpty => simp [hEmpty]
  · next hNonempty => rw [foldlM_push?_eq_some_iff unit hStart, and_iff_right hNonempty]

theorem signedWord?_eq_some_iff : signedWord? text = some w ↔ Signed text w.toInt := by
  constructor
  · intro h
    unfold signedWord? at h
    split at h
    · obtain ⟨hRun, hValue⟩ := (accumulate?_eq_some_iff (.inl rfl)).mp h
      rw [hValue, one_mul]
      exact .plus hRun
    · obtain ⟨hRun, hValue⟩ := (accumulate?_eq_some_iff (.inr rfl)).mp h
      rw [hValue, neg_one_mul]
      exact .minus hRun
    · obtain ⟨hRun, hValue⟩ := (accumulate?_eq_some_iff (.inl rfl)).mp h
      rw [hValue, one_mul]
      exact .plain hRun
  · intro h
    generalize hn : w.toInt = n at h
    cases h with
    | plain run =>
      rw [signedWord?_of_run run]
      exact (accumulate?_eq_some_iff (.inl rfl)).mpr ⟨run, by rw [hn, one_mul]⟩
    | plus run => exact (accumulate?_eq_some_iff (.inl rfl)).mpr ⟨run, by rw [hn, one_mul]⟩
    | minus run => exact (accumulate?_eq_some_iff (.inr rfl)).mpr ⟨run, by rw [hn, neg_one_mul]⟩

end Words

/-- The decimal text of a number, with zeros after its sign. -/
def zeroed (zeros : Nat) : Int → List Char
  | .ofNat n => List.replicate zeros '0' ++ decimal n
  | .negSucc n => '-' :: (List.replicate zeros '0' ++ decimal (n + 1))

theorem zeroed_zero (n : Int) : zeroed 0 n = signedDecimal n := by
  cases n <;> rfl

theorem isRun_zeros_decimal (zeros n : Nat) : IsRun (List.replicate zeros '0' ++ decimal n) := by
  refine isRun_iff.mpr ⟨List.append_ne_nil_of_right_ne_nil _ (decimal_ne_nil n), ?_⟩
  rw [List.all_append, Bool.and_eq_true, List.all_eq_true, List.all_eq_true]
  refine ⟨fun c hMem => ?_, fun c => isDigit_of_mem_decimal⟩
  rw [List.eq_of_mem_replicate hMem]
  rfl

theorem placeValue_zeros_decimal (zeros n : Nat) :
    placeValue (List.replicate zeros '0' ++ decimal n) = n := by
  rw [← digitsFrom_eq_placeValue, digitsFrom_eq_ofDigitChars, Nat.ofDigitChars_append,
    Nat.ofDigitChars_replicate_zero, Nat.mul_zero, decimal, Nat.ofDigitChars_ten_toDigits]

/-- Zeros after the sign leave the number as it is. -/
theorem signed_zeroed (zeros : Nat) (n : Int) : Signed (zeroed zeros n) n := by
  cases n with
  | ofNat n =>
    have hValue := placeValue_zeros_decimal zeros n
    have hSigned := Signed.plain (isRun_zeros_decimal zeros n)
    rwa [hValue] at hSigned
  | negSucc n =>
    have hValue := placeValue_zeros_decimal zeros (n + 1)
    have hSigned := Signed.minus (isRun_zeros_decimal zeros (n + 1))
    rwa [hValue] at hSigned

end Text

namespace Double

variable {x : Double} {n : ℤ}

theorem size_of_value (h : x.value = n) : x.size = (n.natAbs : ℕ) := by
  rw [← abs_value, h, Nat.cast_natAbs, Int.cast_abs]

theorem signed_of_value (h : x.value = n) :
    (if x.negative then -(n.natAbs : ℤ) else n.natAbs) = n := by
  have hSize : 0 ≤ x.size := by
    rw [size_of_value h]
    positivity
  rw [value] at h
  cases hNegative : x.negative with
  | true =>
    rw [hNegative, if_pos rfl] at h
    have hCast : (n : ℚ) ≤ 0 := by linarith
    have hSign : n ≤ 0 := by exact_mod_cast hCast
    rw [if_pos rfl]
    omega
  | false =>
    rw [hNegative, if_neg Bool.false_ne_true] at h
    have hCast : (0 : ℚ) ≤ n := by linarith
    have hSign : 0 ≤ n := by exact_mod_cast hCast
    rw [if_neg Bool.false_ne_true]
    omega

/-- A double that stands for a whole number is cut to that number. -/
theorem truncated_of_value (h : x.value = n) : x.truncated = n := by
  have hSize : x.significand * (2 : ℚ) ^ x.exponent = (n.natAbs : ℕ) := size_of_value h
  unfold truncated
  cases hExponent : x.exponent with
  | ofNat e =>
    rw [hExponent, Int.ofNat_eq_natCast, zpow_natCast] at hSize
    have hWhole : x.significand * 2 ^ e = n.natAbs := by exact_mod_cast hSize
    dsimp only
    rw [hWhole]
    exact signed_of_value h
  | negSucc e =>
    -- The quotient that is cut is exact: the significand is a multiple of the power of two.
    rw [hExponent, zpow_negSucc, ← div_eq_mul_inv, div_eq_iff (by positivity)] at hSize
    have hProduct : x.significand = n.natAbs * 2 ^ (e + 1) := by exact_mod_cast hSize
    dsimp only
    rw [hProduct, Nat.mul_div_cancel _ (Nat.two_pow_pos _)]
    exact signed_of_value h

theorem toInt64_of_value (finite : x.isFinite = true) {n : Int64} (h : x.value = n.toInt) :
    x.toInt64 = n.toInt := by
  have hNumber : x.isNaN = false := by
    simp only [isFinite, isNaN, decide_eq_true_eq, decide_eq_false_iff_not] at finite ⊢
    omega
  have hLower := n.le_toInt
  have hUpper := n.toInt_lt
  rw [toInt64, hNumber, finite, truncated_of_value h, if_neg Bool.false_ne_true, if_pos rfl]
  omega

theorem value_ofInt_of_small (h : n.natAbs < 2 ^ 53) : (ofInt n).value = n := by
  rw [value_ofInt, size_ofInt_of_small h]
  unfold signed
  split
  · next hNegative => rw [Nat.cast_natAbs, abs_of_neg hNegative, Int.cast_neg, neg_neg]
  · next hNonneg => rw [Nat.cast_natAbs, abs_of_nonneg (not_lt.mp hNonneg)]

end Double

namespace Classified

open Text

theorem seconds?_eq_some_iff {text : List Char} {n : Int} :
    seconds? text = some n ↔ Signed text n ∧ -2 ^ 63 ≤ n ∧ n < 2 ^ 63 := by
  rw [seconds?, Option.filter_eq_some_iff, integer?_eq_some_iff, Bool.and_eq_true,
    decide_eq_true_eq, decide_eq_true_eq]

theorem seconds?_eq_word (text : List Char) : seconds? text = (signedWord? text).map (·.toInt) := by
  ext n
  rw [seconds?_eq_some_iff, Option.map_eq_some_iff]
  simp only [signedWord?_eq_some_iff]
  constructor
  · rintro ⟨hSigned, hLower, hUpper⟩
    have hWord : (Int64.ofInt n).toInt = n := Int64.toInt_ofInt_of_le hLower hUpper
    exact ⟨Int64.ofInt n, hWord.symm ▸ hSigned, hWord⟩
  · rintro ⟨w, hSigned, rfl⟩
    exact ⟨hSigned, w.le_toInt, w.toInt_lt⟩

theorem seconds?_eq_none_iff {text : List Char} :
    seconds? text = none ↔ ¬∃ n, Signed text n ∧ -2 ^ 63 ≤ n ∧ n < 2 ^ 63 := by
  rw [Option.eq_none_iff_forall_ne_some, not_exists]
  simp only [ne_eq, seconds?_eq_some_iff]

end Classified

open Text Classified

theorem classify_of_signed {text : List Char} {n : Int} (signed : Signed text n)
    (lower : -2 ^ 63 ≤ n) (upper : n < 2 ^ 63) :
    classify .timestamp (.text (String.ofList text)) = .ok (.timestamp n) := by
  refine classify_of_classifies (.textSeconds ?_)
  rw [String.toList_ofList]
  exact seconds?_eq_some_iff.mpr ⟨signed, lower, upper⟩

theorem classify_decimal (n : Int64) (zeros : Nat) :
    classify .timestamp (.text (String.ofList (zeroed zeros n.toInt))) =
      .ok (.timestamp n.toInt) :=
  classify_of_signed (signed_zeroed zeros n.toInt) n.le_toInt n.toInt_lt

theorem classify_whole {x : Double} {n : Int64} (finite : x.isFinite = true)
    (whole : x.value = n.toInt) : classify .timestamp (.float x) = .ok (.timestamp n.toInt) := by
  rw [← Double.toInt64_of_value finite whole]
  exact classify_of_classifies (.doubleSeconds x)

/-- Integers, their texts and the doubles that stand for them. -/
theorem classify_representations (n : Int64) :
    classify .timestamp (.int n) = .ok (.timestamp n.toInt) ∧
      classify .timestamp (.text (String.ofList (signedDecimal n.toInt))) =
        .ok (.timestamp n.toInt) ∧
      (∀ zeros, classify .timestamp (.text (String.ofList (zeroed zeros n.toInt))) =
        .ok (.timestamp n.toInt)) ∧
      ∀ x : Double, x.isFinite = true → x.value = n.toInt →
        classify .timestamp (.float x) = .ok (.timestamp n.toInt) :=
  ⟨rfl, zeroed_zero n.toInt ▸ classify_decimal n 0, classify_decimal n, fun _ => classify_whole⟩

/-- A text is a timestamp exactly if it is a numeral of 64 bits, any other text is refused, and
nothing else comes of reading it in words of 64 bits. An integer, its decimal text with zeros in it
or without, a double that stands for it and a store timestamp with any increment are the same
seconds. -/
theorem timestamp_told_by_numerals :
    (∀ (s : String) (c : Classified), classify .timestamp (.text s) = .ok c ↔
      ∃ n, Signed s.toList n ∧ -2 ^ 63 ≤ n ∧ n < 2 ^ 63 ∧ c = .timestamp n) ∧
    (∀ s : String, classify .timestamp (.text s) = .error .invalidTimestampText ↔
      ¬∃ n, Signed s.toList n ∧ -2 ^ 63 ≤ n ∧ n < 2 ^ 63) ∧
    (∀ s : String, classify .timestamp (.text s) =
      match signedWord? s.toList with
      | some w => .ok (.timestamp w.toInt)
      | none => .error .invalidTimestampText) ∧
    (∀ n : Int64, classify .timestamp (.int n) = .ok (.timestamp n.toInt) ∧
      classify .timestamp (.text (String.ofList (signedDecimal n.toInt))) =
        .ok (.timestamp n.toInt) ∧
      (∀ zeros, classify .timestamp (.text (String.ofList (zeroed zeros n.toInt))) =
        .ok (.timestamp n.toInt)) ∧
      ∀ x : Double, x.isFinite = true → x.value = n.toInt →
        classify .timestamp (.float x) = .ok (.timestamp n.toInt)) ∧
    ∀ t i : UInt32, ∃ seconds : Int64, seconds.toInt = t.toNat ∧
      classify .timestamp (.timestamp ⟨t, i⟩) = .ok (.timestamp t.toNat) ∧
      classify .timestamp (.int seconds) = .ok (.timestamp t.toNat) ∧
      classify .timestamp (.float (Double.ofInt t.toNat)) = .ok (.timestamp t.toNat) ∧
      classify .timestamp (.text (String.ofList (decimal t.toNat))) = .ok (.timestamp t.toNat) := by
  refine ⟨fun s c => ?_, fun s => ?_, fun s => ?_, fun n => ?_, fun t i => ?_⟩
  · rw [classify_eq_ok_iff]
    constructor
    · rintro (_ | _)
      next n h =>
      obtain ⟨hSigned, hLower, hUpper⟩ := seconds?_eq_some_iff.mp h
      exact ⟨n, hSigned, hLower, hUpper, rfl⟩
    · rintro ⟨n, hSigned, hLower, hUpper, rfl⟩
      exact .textSeconds (seconds?_eq_some_iff.mpr ⟨hSigned, hLower, hUpper⟩)
  · rw [← seconds?_eq_none_iff]
    change timestampOfText s = _ ↔ _
    unfold timestampOfText
    cases seconds? s.toList <;> simp
  · change timestampOfText s = _
    unfold timestampOfText
    rw [seconds?_eq_word]
    cases signedWord? s.toList <;> rfl
  · exact classify_representations n
  · have hSmall : t.toNat < 2 ^ 32 := t.toNat_lt
    have hSeconds : (Int64.ofNat t.toNat).toInt = t.toNat :=
      Int64.toInt_ofNat_of_lt (hSmall.trans (by decide))
    have hFinite : (Double.ofInt t.toNat).isFinite = true := Double.isFinite_ofInt (by omega)
    have hValue : (Double.ofInt t.toNat).value = (t.toNat : ℤ) :=
      Double.value_ofInt_of_small (by omega)
    obtain ⟨hInteger, hText, -, hDouble⟩ := classify_representations (Int64.ofNat t.toNat)
    rw [hSeconds] at hInteger hText hDouble
    exact ⟨_, hSeconds, rfl, hInteger, hDouble _ hFinite hValue, hText⟩

/-- The least number is told in three ways, and the text of the first number beyond the greatest is
refused. -/
theorem timestamp_told_by_numerals_at_ends :
    let least : Int64 := -9223372036854775808
    let x : Double := Double.ofInt least.toInt
    x.isFinite = true ∧ x.value = least.toInt ∧
      classify .timestamp (.float x) = .ok (.timestamp (-2 ^ 63)) ∧
      classify .timestamp (.text "-0009223372036854775808") = .ok (.timestamp (-2 ^ 63)) ∧
      classify .timestamp (.text "9223372036854775808") = .error .invalidTimestampText ∧
      ¬∃ n, Signed "9223372036854775808".toList n ∧ -2 ^ 63 ≤ n ∧ n < 2 ^ 63 := by
  intro least x
  obtain ⟨-, hRefused, hWords, hNumbers, -⟩ := timestamp_told_by_numerals
  have hLeast : least.toInt = -2 ^ 63 := by decide
  have hFinite : x.isFinite = true := Double.isFinite_ofInt (Double.natAbs_toInt_lt least)
  have hSize : x.size = 2 ^ 63 := by
    rw [Double.size, (by decide +kernel : x.significand = 2 ^ 52),
      (by decide +kernel : x.exponent = 11)]
    norm_num
  have hValue : x.value = least.toInt := by
    rw [Double.value_ofInt, hSize, hLeast]
    norm_num [Double.signed]
  have hText : String.ofList (zeroed 3 least.toInt) = "-0009223372036854775808" := by
    decide +kernel
  have hBeyond : classify .timestamp (.text "9223372036854775808") =
      .error .invalidTimestampText := by
    rw [hWords, (by decide +kernel : signedWord? "9223372036854775808".toList = none)]
  obtain ⟨-, -, hZeros, hDoubles⟩ := hNumbers least
  rw [hLeast] at hDoubles
  refine ⟨hFinite, hValue, hDoubles x hFinite (hLeast ▸ hValue), ?_, hBeyond,
    (hRefused _).mp hBeyond⟩
  rw [← hText, ← hLeast]
  exact hZeros 3

end Intake
