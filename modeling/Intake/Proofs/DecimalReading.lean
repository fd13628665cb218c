import Intake.Json.Token
import Intake.Json.Writer
import Intake.Proofs.FiniteScaling
import Intake.Proofs.ShortestDecimal

/-! # Numerals read back

The numerals that are written are read whole, those of integers as the integers. What is written of
a double is read as the double if its digits are few and its power of ten is small. Beyond that the
reader rounds more than once, but what it reads is always a finite double.
-/

namespace Intake

namespace Json

open Text

/-- What follows a numeral: nothing that it could go on with. -/
def EndsNumeral (rest : List Char) : Prop :=
  ∀ c ∈ rest.head?, isDigit c = false ∧ c ≠ '.' ∧ c ≠ 'e' ∧ c ≠ 'E'

namespace Numeral

def fractionText : Option (List Char) → List Char
  | none => []
  | some run => '.' :: run

def powerText : Option Int → List Char
  | none => []
  | some power => Double.exponentText power

def text (n : Numeral) : List Char :=
  (if n.negative then ['-'] else []) ++ (n.whole ++ (fractionText n.fraction ++ powerText n.power))

/-- Runs of digits where they belong, and no zero before another digit. -/
structure Proper (n : Numeral) : Prop where
  whole_ne_nil : n.whole ≠ []
  whole_digits : ∀ c ∈ n.whole, isDigit c = true
  no_leading_zero : ∀ rest, n.whole = '0' :: rest → rest = []
  fraction_digits : ∀ run, n.fraction = some run → run ≠ [] ∧ ∀ c ∈ run, isDigit c = true

end Numeral

theorem digits?_append {run rest : List Char} (nonempty : run ≠ [])
    (digits : ∀ c ∈ run, isDigit c = true) (ends : ∀ c ∈ rest.head?, isDigit c = false) :
    digits? (run ++ rest) = some (run, rest) := by
  have hTake : rest.takeWhile isDigit = [] := by
    cases rest with
    | nil => rfl
    | cons c rest => rw [List.takeWhile_cons_of_neg (by simp [ends c rfl])]
  have hDrop : rest.dropWhile isDigit = rest := by
    cases rest with
    | nil => rfl
    | cons c rest => rw [List.dropWhile_cons_of_neg (by simp [ends c rfl])]
  unfold digits?
  rw [List.takeWhile_append_of_pos digits, List.dropWhile_append_of_pos digits, hTake, hDrop,
    List.append_nil]
  exact if_neg nonempty

theorem fraction?_append {fraction : Option (List Char)} {rest : List Char}
    (digits : ∀ run, fraction = some run → run ≠ [] ∧ ∀ c ∈ run, isDigit c = true)
    (ends : ∀ c ∈ rest.head?, isDigit c = false ∧ c ≠ '.') :
    fraction? (Numeral.fractionText fraction ++ rest) = some (fraction, rest) := by
  cases fraction with
  | none =>
    change fraction? rest = _
    unfold fraction?
    split
    · next rest => exact absurd rfl (ends '.' rfl).2
    · rfl
  | some run =>
    obtain ⟨hNonempty, hDigits⟩ := digits run rfl
    change (digits? (run ++ rest)).map _ = _
    rw [digits?_append hNonempty hDigits fun c hc => (ends c hc).1]
    rfl

theorem isDigit_of_mem_decimal {n : Nat} : ∀ c ∈ decimal n, isDigit c = true :=
  fun _ h => Nat.isDigit_of_mem_toDigits (by decide) (by decide) h

theorem isDigit_of_mem_zero : ∀ c ∈ ['0'], isDigit c = true :=
  List.forall_mem_singleton.mpr rfl

theorem digitsFrom_decimal (n : Nat) : digitsFrom 0 (decimal n) = n := by
  rw [digitsFrom_eq_ofDigitChars, decimal, Nat.ofDigitChars_ten_toDigits]

theorem signedPower?_exponent {power : Int} {rest : List Char}
    (ends : ∀ c ∈ rest.head?, isDigit c = false) :
    signedPower? ((if power < 0 then '-' else '+') :: decimal power.natAbs ++ rest) =
      some (power, rest) := by
  have hRead : digits? (decimal power.natAbs ++ rest) = some (decimal power.natAbs, rest) :=
    digits?_append (decimal_ne_nil _) isDigit_of_mem_decimal ends
  split
  · simp only [List.cons_append, signedPower?, hRead, Option.map_some, digitsFrom_decimal,
      Option.some.injEq, Prod.mk.injEq, and_true]
    omega
  · simp only [List.cons_append, signedPower?, hRead, Option.map_some, digitsFrom_decimal,
      Option.some.injEq, Prod.mk.injEq, and_true]
    omega

theorem power?_append {power : Option Int} {rest : List Char} (ends : EndsNumeral rest) :
    power? (Numeral.powerText power ++ rest) = some (power, rest) := by
  cases power with
  | none =>
    change power? rest = _
    unfold power?
    split
    · next rest => exact absurd rfl (ends 'e' rfl).2.2.1
    · next rest => exact absurd rfl (ends 'E' rfl).2.2.2
    · rfl
  | some power =>
    change (signedPower? ((if power < 0 then '-' else '+') :: decimal power.natAbs ++ rest)).map _ =
      _
    rw [signedPower?_exponent fun c hc => (ends c hc).1]
    rfl

theorem head?_powerText (power : Option Int) {rest : List Char} (ends : EndsNumeral rest) :
    ∀ c ∈ (Numeral.powerText power ++ rest).head?, isDigit c = false ∧ c ≠ '.' := by
  cases power with
  | none => exact fun c hc => ⟨(ends c hc).1, (ends c hc).2.1⟩
  | some power =>
    rintro c ⟨⟩
    decide

theorem head?_fractionText {fraction : Option (List Char)} {rest : List Char}
    (ends : ∀ c ∈ rest.head?, isDigit c = false) :
    ∀ c ∈ (Numeral.fractionText fraction ++ rest).head?, isDigit c = false := by
  cases fraction with
  | none => exact ends
  | some run =>
    rintro c ⟨⟩
    decide

variable {n : Numeral} {rest : List Char}

theorem whole?_append (proper : n.Proper) (ends : ∀ c ∈ rest.head?, isDigit c = false) :
    whole? (n.whole ++ rest) = some (n.whole, rest) := by
  rw [whole?, digits?_append proper.whole_ne_nil proper.whole_digits ends]
  split
  · next c tail after h =>
    simp only [Option.some.injEq, Prod.mk.injEq] at h
    cases proper.no_leading_zero _ h.1
  · rfl

theorem unsigned?_append (proper : n.Proper) (ends : EndsNumeral rest) :
    unsigned? n.negative
      (n.whole ++ (Numeral.fractionText n.fraction ++ (Numeral.powerText n.power ++ rest))) =
      some (n, rest) := by
  have hPower := head?_powerText n.power ends
  rw [unsigned?, whole?_append proper (head?_fractionText fun c hc => (hPower c hc).1)]
  simp only [Option.bind_eq_bind, Option.bind_some]
  rw [fraction?_append proper.fraction_digits hPower]
  simp only [Option.bind_some]
  rw [power?_append ends]
  rfl

/-- A written numeral is read whole. -/
theorem numeral?_text (proper : n.Proper) (ends : EndsNumeral rest) :
    numeral? (n.text ++ rest) = some (n, rest) := by
  have hUnsigned := unsigned?_append proper ends
  obtain ⟨first, others, hWhole⟩ := List.exists_cons_of_ne_nil proper.whole_ne_nil
  have hDigit : isDigit first = true := proper.whole_digits first (hWhole ▸ List.mem_cons_self)
  unfold Numeral.text
  cases hNegative : n.negative with
  | true =>
    rw [hNegative] at hUnsigned
    simpa [numeral?] using hUnsigned
  | false =>
    rw [hNegative, hWhole] at hUnsigned
    simp only [Bool.false_eq_true, if_false, List.nil_append, hWhole, List.cons_append,
      List.append_assoc] at hUnsigned ⊢
    unfold numeral?
    split
    · next h =>
      cases h
      cases hDigit
    · exact hUnsigned

namespace Numeral

/-- All digits of a numeral as one number. -/
def word (n : Numeral) : ℕ := digitsFrom 0 (n.whole ++ n.fraction.getD [])

/-- The power of ten by which that number is scaled. -/
def exponent (n : Numeral) : ℤ := n.power.getD 0 - (n.fraction.getD []).length

/-- The number that a numeral stands for, but for its sign. -/
def size (n : Numeral) : ℚ := n.word * 10 ^ n.exponent

end Numeral

theorem appendDigits_of_lt {start : Nat} {digits : List Char}
    (room : digitsFrom start digits < 2 ^ 64) :
    appendDigits start digits = (digitsFrom start digits, []) := by
  induction digits generalizing start with
  | nil => rfl
  | cons c rest ih =>
    have hNext : start * 10 + digitValue c < 2 ^ 64 := (le_digitsFrom _ rest).trans_lt room
    rw [appendDigits, if_pos hNext]
    exact ih room

theorem pow_length_mul_le_digitsFrom (start : Nat) (digits : List Char) :
    start * 10 ^ digits.length ≤ digitsFrom start digits := by
  induction digits generalizing start with
  | nil => simp [digitsFrom]
  | cons c rest ih =>
    have hRest := ih (start * 10 + digitValue c)
    rw [List.length_cons, pow_succ']
    calc start * (10 * 10 ^ rest.length) = start * 10 * 10 ^ rest.length := by ring
      _ ≤ (start * 10 + digitValue c) * 10 ^ rest.length :=
        Nat.mul_le_mul_right _ (Nat.le_add_right _ _)
      _ ≤ digitsFrom start (c :: rest) := hRest

/-- Digits are left out only from the end, and the word stays within its bits. -/
theorem appendDigits_le {start : Nat} (room : start < 2 ^ 64) (digits : List Char) :
    (appendDigits start digits).1 < 2 ^ 64 ∧
      (appendDigits start digits).2.length ≤ digits.length ∧
      (appendDigits start digits).1 * 10 ^ (appendDigits start digits).2.length ≤
        digitsFrom start digits := by
  induction digits generalizing start with
  | nil => exact ⟨room, le_rfl, by simp [appendDigits, digitsFrom]⟩
  | cons c rest ih =>
    rw [appendDigits]
    split
    · next hNext =>
      obtain ⟨hRoom, hLength, hValue⟩ := ih hNext
      exact ⟨hRoom, hLength.trans (Nat.le_succ _), hValue⟩
    · exact ⟨room, le_rfl, pow_length_mul_le_digitsFrom start (c :: rest)⟩

/-- A numeral whose digits before the point fit into a word is read as some double, if it is not
too large. -/
theorem Numeral.exists_double? (room : digitsFrom 0 n.whole < 2 ^ 64)
    (safe : n.size ≤ Double.safe) : ∃ y, n.double? = some y := by
  have hFirst : appendDigits 0 n.whole = (digitsFrom 0 n.whole, []) := appendDigits_of_lt room
  have hWord : digitsFrom (digitsFrom 0 n.whole) (n.fraction.getD []) = n.word := by
    rw [word, digitsFrom, digitsFrom, digitsFrom, List.foldl_append]
  obtain ⟨hRoom, hLength, hValue⟩ := appendDigits_le room (n.fraction.getD [])
  rw [hWord] at hValue
  unfold double?
  dsimp only
  rw [hFirst]
  dsimp only
  generalize appendDigits (digitsFrom 0 n.whole) (n.fraction.getD []) = found at *
  obtain ⟨first, ignored⟩ := found
  dsimp only at *
  have hPower : n.power.getD 0 + (([] : List Char).length : ℤ) -
      (((n.fraction.getD []).length - ignored.length : ℕ) : ℤ) = ignored.length + n.exponent := by
    rw [exponent, Nat.cast_sub hLength, List.length_nil]
    push_cast
    ring
  have hBelow : (first : ℚ) * 10 ^ ((ignored.length : ℤ) + n.exponent) ≤ Double.safe := by
    have hCast : (first : ℚ) * 10 ^ ignored.length ≤ n.word := by exact_mod_cast hValue
    rw [zpow_add₀ (by decide), zpow_natCast, ← mul_assoc]
    exact (mul_le_mul_of_nonneg_right hCast (Double.zpow_ten_pos _).le).trans safe
  obtain ⟨y, hScaled⟩ := Double.exists_scaled?_ofInt hRoom hBelow
  rw [hPower, hScaled]
  exact ⟨_, rfl⟩

/-- A numeral of few digits and with a small power of ten is read as the double nearest to it. -/
theorem Numeral.double?_eq {x : Double} (sign : n.negative = x.negative) (positive : 0 < x.rank)
    (finite : x.isFinite = true) (short : n.word < 2 ^ 53) (small : n.exponent.natAbs ≤ 22)
    (h : x.Near n.size) : n.double? = some x := by
  have hWhole : digitsFrom 0 n.whole ≤ n.word := by
    rw [word, digitsFrom, digitsFrom, List.foldl_append]
    exact le_digitsFrom _ _
  have hFirst : appendDigits 0 n.whole = (digitsFrom 0 n.whole, []) :=
    appendDigits_of_lt (by omega)
  have hWord : digitsFrom (digitsFrom 0 n.whole) (n.fraction.getD []) = n.word := by
    rw [word, digitsFrom, digitsFrom, digitsFrom, List.foldl_append]
  have hSecond : appendDigits (digitsFrom 0 n.whole) (n.fraction.getD []) = (n.word, []) := by
    rw [← hWord]
    exact appendDigits_of_lt (by omega)
  have hScaled : (Double.ofInt n.word).scaled? n.exponent = some { x with negative := false } :=
    Double.scaled?_ofInt short small rfl positive finite ⟨h.lower, h.upper, h.inside⟩
  unfold double?
  dsimp only
  rw [hFirst]
  dsimp only
  rw [hSecond]
  simp only [List.length_nil, Nat.cast_zero, add_zero, Nat.sub_zero]
  rw [← exponent, hScaled, Option.map_some, sign]

theorem decimal_ne_zero_cons {n : Nat} (positive : 0 < n) (rest : List Char) :
    decimal n ≠ '0' :: rest := by
  intro h
  have hRest : rest.all isDigit = true :=
    List.all_eq_true.mpr fun c hc => isDigit_of_mem_decimal c (h ▸ List.mem_cons_of_mem _ hc)
  have hUpper : digitsFrom 0 rest < 10 ^ rest.length := digitsFrom_lt hRest
  have hLower : 10 ^ ((decimal n).length - 1) ≤ n := pow_length_decimal_le positive
  have hSame : digitsFrom 0 rest = n := by
    have hDecimal := digitsFrom_decimal n
    rwa [h] at hDecimal
  rw [h, List.length_cons, Nat.add_sub_cancel] at hLower
  omega

/-- A numeral that is no integer is written so. It stands for a decimal, to whose digits it may add
zeros up to the point and one behind it. Few digits stand before the point. -/
structure Numeral.Spells (n : Numeral) (text : List Char) (negative : Bool) (d : Double.Decimal) :
    Prop where
  proper : n.Proper
  written : n.text = (if negative then ['-'] else []) ++ text
  sign : n.negative = negative
  fractional : n.integer? = none
  whole_short : n.whole.length ≤ 16
  size : n.size = d.value
  word_le : n.word ≤ d.digits * 10 ^ (d.power + 1).toNat
  le_exponent : min d.power (-1) ≤ n.exponent
  exponent_le : n.exponent ≤ max d.power 0

/-- Where no digit is added, the digits are those of the decimal. -/
theorem Numeral.Spells.of_same {n : Numeral} {text : List Char} {negative : Bool}
    {d : Double.Decimal} (proper : n.Proper)
    (written : n.text = (if negative then ['-'] else []) ++ text) (sign : n.negative = negative)
    (fractional : n.integer? = none) (short : n.whole.length ≤ 16) (word : n.word = d.digits)
    (exponent : n.exponent = d.power) : n.Spells text negative d where
  proper := proper
  written := written
  sign := sign
  fractional := fractional
  whole_short := short
  size := by rw [Numeral.size, word, exponent, Double.Decimal.value]
  word_le := word ▸ Nat.le_mul_of_pos_right _ (Nat.pow_pos (by decide))
  le_exponent := exponent ▸ min_le_left _ _
  exponent_le := exponent ▸ le_max_left _ _

/-- The text of a decimal with a sign. -/
def Writes (text : List Char) (negative : Bool) (digits : Nat) (power : Int) : Prop :=
  ∃ n : Numeral, n.Spells text negative ⟨digits, power⟩

variable {negative : Bool} {digits : Nat}

/-- A point behind the digits, with zeros between them. -/
theorem writes_whole (positive : 0 < digits) {zeros : Nat}
    (short : (decimal digits).length + zeros ≤ 16) :
    Writes (decimal digits ++ List.replicate zeros '0' ++ ['.', '0']) negative digits zeros := by
  let n : Numeral := ⟨negative, decimal digits ++ List.replicate zeros '0', some ['0'], none⟩
  have hWord : n.word = digits * 10 ^ (zeros + 1) := by
    have hValue : digitsFrom 0 (decimal digits ++ List.replicate zeros '0' ++ ['0']) =
        10 * (10 ^ zeros * digits) := by
      rw [digitsFrom_eq_ofDigitChars, Nat.ofDigitChars_append, Nat.ofDigitChars_append, decimal,
        Nat.ofDigitChars_ten_toDigits, Nat.ofDigitChars_replicate_zero]
      rfl
    rw [Numeral.word]
    dsimp only [n, Option.getD_some]
    rw [hValue]
    ring
  refine ⟨n, ⟨?_, ?_, ?_, ?_⟩, ?_, rfl, rfl, ?_, ?_, hWord.le, ?_, ?_⟩
  · simp [n, decimal_ne_nil]
  · intro c hc
    rcases List.mem_append.mp hc with hc | hc
    · exact isDigit_of_mem_decimal c hc
    · rw [(List.mem_replicate.mp hc).2]
      rfl
  · obtain ⟨first, others, hDigits⟩ := List.exists_cons_of_ne_nil (decimal_ne_nil digits)
    intro rest hZero
    dsimp only [n] at hZero
    rw [hDigits, List.cons_append, List.cons.injEq] at hZero
    exact absurd (hZero.1 ▸ hDigits) (decimal_ne_zero_cons positive others)
  · rintro run ⟨⟩
    exact ⟨List.cons_ne_nil _ _, isDigit_of_mem_zero⟩
  · simp [n, Numeral.text, Numeral.fractionText, Numeral.powerText]
  · simpa [n] using short
  · rw [Numeral.size, hWord, Double.Decimal.value, zpow_natCast]
    dsimp only [n, Numeral.exponent, Option.getD_some, Option.getD_none, List.length_singleton]
    push_cast
    norm_num
    ring
  · exact min_le_right _ _
  · exact le_max_of_le_right (by simp [n, Numeral.exponent])

/-- A point among the digits. -/
theorem writes_within {whole : Nat} (positive : 0 < digits) (hWhole : 0 < whole)
    (hLength : whole < (decimal digits).length) (short : whole ≤ 16) :
    Writes ((decimal digits).take whole ++ '.' :: (decimal digits).drop whole) negative digits
      (whole - (decimal digits).length) := by
  refine ⟨⟨negative, (decimal digits).take whole, some ((decimal digits).drop whole), none⟩,
    .of_same ⟨?_, ?_, ?_, ?_⟩ ?_ rfl rfl ?_ ?_ ?_⟩
  · rw [← List.length_pos_iff]
    simp only [List.length_take]
    omega
  · exact fun c hc => isDigit_of_mem_decimal c (List.mem_of_mem_take hc)
  · obtain ⟨first, others, hDigits⟩ := List.exists_cons_of_ne_nil (decimal_ne_nil digits)
    intro rest hZero
    obtain ⟨k, rfl⟩ := Nat.exists_eq_add_one.mpr hWhole
    dsimp only at hZero
    rw [hDigits, List.take_succ_cons, List.cons.injEq] at hZero
    exact absurd (hZero.1 ▸ hDigits) (decimal_ne_zero_cons positive others)
  · rintro run ⟨⟩
    refine ⟨?_, fun c hc => isDigit_of_mem_decimal c (List.mem_of_mem_drop hc)⟩
    rw [← List.length_pos_iff, List.length_drop]
    omega
  · simp [Numeral.text, Numeral.fractionText, Numeral.powerText]
  · exact (List.length_take_le _ _).trans short
  · simp only [Numeral.word, Option.getD_some, List.take_append_drop, digitsFrom_decimal]
  · simp only [Numeral.exponent, Option.getD_some, Option.getD_none, List.length_drop]
    omega

/-- A point before the digits, with zeros between them. -/
theorem writes_below (zeros : Nat) :
    Writes ('0' :: '.' :: List.replicate zeros '0' ++ decimal digits) negative digits
      (-(zeros : Int) - (decimal digits).length) := by
  refine ⟨⟨negative, ['0'], some (List.replicate zeros '0' ++ decimal digits), none⟩,
    .of_same ⟨List.cons_ne_nil _ _, isDigit_of_mem_zero, ?_, ?_⟩ ?_ rfl rfl
      (Nat.succ_le_succ (Nat.zero_le _)) ?_ ?_⟩
  · intro rest hZero
    cases hZero
    rfl
  · rintro run ⟨⟩
    refine ⟨by simp [decimal_ne_nil], fun c hc => ?_⟩
    rcases List.mem_append.mp hc with hc | hc
    · rw [(List.mem_replicate.mp hc).2]
      rfl
    · exact isDigit_of_mem_decimal c hc
  · simp [Numeral.text, Numeral.fractionText, Numeral.powerText]
  · have hZero : Nat.ofDigitChars 10 ['0'] 0 = 0 := rfl
    simp only [Numeral.word, Option.getD_some]
    rw [digitsFrom_eq_ofDigitChars, Nat.ofDigitChars_append, Nat.ofDigitChars_append, hZero,
      Nat.ofDigitChars_replicate_zero, Nat.mul_zero, decimal, Nat.ofDigitChars_ten_toDigits]
  · simp only [Numeral.exponent, Option.getD_some, Option.getD_none, List.length_append,
      List.length_replicate]
    omega

theorem writes_positional (positive : 0 < digits) {power : Int}
    (short : (decimal digits).length + power ≤ 16) :
    Writes (Double.positionalText (decimal digits) ((decimal digits).length + power) true) negative
      digits power := by
  unfold Double.positionalText
  split
  · next hBelow =>
    have hPower : -((-((decimal digits).length + power)).toNat : Int) - (decimal digits).length =
        power := by omega
    have h : Writes _ negative digits _ :=
      writes_below (-((decimal digits).length + power)).toNat
    rwa [hPower] at h
  · next hAbove =>
    obtain ⟨whole, hWhole⟩ : ∃ whole : Nat, ((decimal digits).length : Int) + power = whole :=
      ⟨_, (Int.toNat_of_nonneg (by omega)).symm⟩
    rw [hWhole] at hAbove ⊢
    dsimp only [Int.toNat_natCast]
    split
    · next hBack =>
      have hShort : (decimal digits).length ≤ whole := by
        simpa using hBack
      have hZeros : ((whole - (decimal digits).length : Nat) : Int) = power := by omega
      rw [List.take_of_length_le hShort, if_pos rfl, ← hZeros]
      exact writes_whole positive (by omega)
    · next hBack =>
      have hLong : whole < (decimal digits).length := by
        simpa using hBack
      have hPower : (whole : Int) - (decimal digits).length = power := by omega
      rw [← hPower]
      exact writes_within positive (by omega) hLong (by omega)

theorem writes_scientific (positive : 0 < digits) (power : Int) :
    Writes (Double.scientificText (decimal digits) ((decimal digits).length + power - 1)) negative
      digits power := by
  have hEach := isDigit_of_mem_decimal (n := digits)
  have hValue := digitsFrom_decimal digits
  have hZero := decimal_ne_zero_cons positive
  generalize hText : decimal digits = text at hEach hValue hZero ⊢
  match text with
  | [] => exact absurd hText (decimal_ne_nil digits)
  | [d] =>
    refine ⟨⟨negative, [d], none, some power⟩,
      .of_same ⟨by simp, hEach, ?_, nofun⟩ ?_ rfl rfl (by simp) ?_ ?_⟩
    · intro rest h
      cases h
      rfl
    · simp [Numeral.text, Numeral.fractionText, Numeral.powerText, Double.scientificText]
    · simp [Numeral.word, hValue]
    · simp [Numeral.exponent]
  | d :: e :: others =>
    refine ⟨⟨negative, [d], some (e :: others), some (power + (e :: others).length)⟩,
      .of_same ⟨by simp, fun c hc => ?_, ?_, ?_⟩ ?_ rfl rfl (by simp) ?_ ?_⟩
    · exact hEach c (List.mem_singleton.mp hc ▸ List.mem_cons_self)
    · intro rest h
      cases h
      rfl
    · rintro run ⟨⟩
      exact ⟨by simp, fun c hc => hEach c (List.mem_cons_of_mem _ hc)⟩
    · have hPower :
          ((d :: e :: others).length : Int) + power - 1 = power + (e :: others).length := by
        simp only [List.length_cons]
        omega
      rw [hPower]
      simp [Numeral.text, Numeral.fractionText, Numeral.powerText, Double.scientificText]
    · simp [Numeral.word, hValue]
    · simp [Numeral.exponent]

theorem doubleText_of_finite {x : Double} (finite : x.isFinite = true) :
    doubleText x = (if x.negative then ['-'] else []) ++ x.magnitudeText .document := by
  rw [doubleText, if_pos finite, Double.text, Double.isNaN_of_isFinite finite]
  cases x.negative <;> rfl

theorem exists_spells_doubleText {x : Double} (positive : 0 < x.rank)
    (finite : x.isFinite = true) :
    ∃ n : Numeral, n.Spells (x.magnitudeText .document) x.negative (x.shortest .toEven) := by
  have hDigits : 0 < (x.shortest .toEven).digits := Double.digits_pos_shortest positive .toEven
  have hWrites : Writes (Double.decimalText .document (x.shortest .toEven)) x.negative
      (x.shortest .toEven).digits (x.shortest .toEven).power := by
    unfold Double.decimalText
    dsimp only
    split
    · next hStyle =>
      have hShort : (decimal (x.shortest .toEven).digits).length + (x.shortest .toEven).power ≤
          16 := by
        simp only [Double.Style.document, Bool.and_eq_true, decide_eq_true_eq] at hStyle
        omega
      rw [sub_add_cancel]
      exact writes_positional hDigits hShort
    · exact writes_scientific hDigits _
  rw [Double.magnitudeText, Double.isNaN_of_isFinite finite, if_neg Bool.false_ne_true,
    if_pos finite, if_neg positive.ne']
  exact hWrites

/-- The numeral of zero, with a sign or without. -/
theorem exists_numeral_zero {x : Double} (zero : x.rank = 0) :
    ∃ n : Numeral, n.Proper ∧ n.text = doubleText x ∧ n.integer? = none ∧ n.double? = some x := by
  refine ⟨⟨x.negative, ['0'], some ['0'], none⟩,
    ⟨List.cons_ne_nil _ _, isDigit_of_mem_zero, ?_, ?_⟩, ?_, rfl, ?_⟩
  · intro rest h
    cases h
    rfl
  · rintro run ⟨⟩
    exact ⟨List.cons_ne_nil _ _, isDigit_of_mem_zero⟩
  · obtain ⟨negative, rank, hRank⟩ := x
    cases zero
    cases negative <;> rfl
  · have hScaled : (Double.ofInt 0).scaled? (-1) = some .zero := by decide +kernel
    obtain ⟨negative, rank, hRank⟩ := x
    cases zero
    exact congrArg (Option.map _) hScaled

/-- The numerals of the two greatest doubles. -/
theorem exists_numeral_greatest {x : Double} (finite : x.isFinite = true)
    (greatest : Double.infinityRank ≤ x.rank + 2) :
    ∃ n : Numeral, n.Proper ∧ n.text = doubleText x ∧ n.integer? = none ∧
      ∃ y, n.double? = some y := by
  have hFinite : x.rank < Double.infinityRank := of_decide_eq_true finite
  have hRanks : x.rank = Double.infinityRank - 1 ∨ x.rank = Double.infinityRank - 2 := by omega
  have hParts : x = Double.ofRank x.negative x.rank := by rw [Double.ofRank, dif_pos x.rank_lt]
  generalize x.negative = negative at hParts
  have hProper (last : Char) (digit : isDigit last = true) :
      (⟨negative, ['1'], some ("797693134862315".toList ++ [last]), some 308⟩ :
        Numeral).Proper := by
    refine ⟨List.cons_ne_nil _ _, List.forall_mem_singleton.mpr rfl, ?_, ?_⟩
    · rintro _ ⟨⟩
    rintro run ⟨⟩
    refine ⟨by simp, fun c hc => ?_⟩
    rcases List.mem_append.mp hc with hc | hc
    · exact List.all_eq_true.mp (by decide : "797693134862315".toList.all isDigit = true) c hc
    · exact List.mem_singleton.mp hc ▸ digit
  rcases hRanks with hRank | hRank <;> rw [hParts, hRank]
  · refine ⟨_, hProper '7' rfl, ?_, rfl, Option.isSome_iff_exists.mp ?_⟩ <;>
      cases negative <;> decide +kernel
  · refine ⟨_, hProper '5' rfl, ?_, rfl, Option.isSome_iff_exists.mp ?_⟩ <;>
      cases negative <;> decide +kernel

/-- A finite double is written as a numeral that is read as some double. -/
theorem exists_numeral_doubleText {x : Double} (finite : x.isFinite = true) :
    ∃ n : Numeral, n.Proper ∧ n.text = doubleText x ∧ n.integer? = none ∧
      ∃ y, n.double? = some y := by
  rcases Nat.eq_zero_or_pos x.rank with hZero | hPositive
  · obtain ⟨n, hProper, hText, hInteger, hDouble⟩ := exists_numeral_zero hZero
    exact ⟨n, hProper, hText, hInteger, x, hDouble⟩
  by_cases hGreatest : Double.infinityRank ≤ x.rank + 2
  · exact exists_numeral_greatest finite hGreatest
  · obtain ⟨n, hSpells⟩ := exists_spells_doubleText hPositive finite
    have hRoom : digitsFrom 0 n.whole < 2 ^ 64 := by
      have hDigits : n.whole.all isDigit = true :=
        List.all_eq_true.mpr hSpells.proper.whole_digits
      calc digitsFrom 0 n.whole < 10 ^ n.whole.length := digitsFrom_lt hDigits
        _ ≤ 10 ^ 16 := Nat.pow_le_pow_right (by decide) hSpells.whole_short
        _ < 2 ^ 64 := by decide
    have hNear : x.Near n.size := hSpells.size ▸ Double.near_shortest hPositive .toEven
    exact ⟨n, hSpells.proper, hSpells.written.trans (doubleText_of_finite finite).symm,
      hSpells.fractional, Numeral.exists_double? hRoom (hNear.le_safe (not_le.mp hGreatest))⟩

/-- An integer of 64 bits, with or without a sign, is written as a numeral that is read as it. -/
theorem exists_numeral_signedDecimal {i : Int} (lower : -2 ^ 63 ≤ i) (upper : i < 2 ^ 64) :
    ∃ n : Numeral, n.Proper ∧ n.text = signedDecimal i ∧ n.integer? = some i := by
  have hProper (negative : Bool) (k : Nat) :
      (⟨negative, decimal k, none, none⟩ : Numeral).Proper := by
    refine ⟨decimal_ne_nil k, isDigit_of_mem_decimal, fun rest h => ?_, nofun⟩
    rcases Nat.eq_zero_or_pos k with rfl | hPositive
    · cases h
      rfl
    · exact absurd h (decimal_ne_zero_cons hPositive rest)
  cases i with
  | ofNat k =>
    refine ⟨⟨false, decimal k, none, none⟩, hProper _ _, ?_, ?_⟩
    · simp [Numeral.text, Numeral.fractionText, Numeral.powerText, signedDecimal]
    · have hBound : k < 2 ^ 64 := by
        rw [Int.ofNat_eq_natCast] at upper
        omega
      simpa [Numeral.integer?, digitsFrom_decimal] using hBound
  | negSucc k =>
    refine ⟨⟨true, decimal (k + 1), none, none⟩, hProper _ _, ?_, ?_⟩
    · simp [Numeral.text, Numeral.fractionText, Numeral.powerText, signedDecimal]
    · have hBound : k + 1 ≤ 2 ^ 63 := by omega
      simp only [Numeral.integer?, digitsFrom_decimal, Option.isSome_none, Bool.or_self,
        Bool.false_eq_true, if_false, if_true, Nat.succ_pos, hBound, and_self, Option.some.injEq]
      omega

end Json

end Intake
