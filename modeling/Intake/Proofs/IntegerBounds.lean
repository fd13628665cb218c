import Intake.Proofs.RoundedIntegers
import Intake.Proofs.Satisfiable

/-! # Bounds that are integers

Bounds and numbers are compared as doubles. Rounding keeps the order of integers, so nothing that
lies between its bounds is refused; integers that round to the same double are not told apart, which
begins at two to the 53.
-/

namespace Intake

open Definition Validation

namespace Schema

/-- The definition of a number `f` between two integers. -/
def numberBetween (lo hi : Int64) : Value :=
  .object [("f", .object [("type", .text "number"), ("minimum", .int lo), ("maximum", .int hi)])]

/-- An object whose `f` is an integer. -/
def numbered (n : Int64) : Value := .object [("f", .int n)]

variable {lo hi n : Int64}

theorem ofDefinition_numberBetween [Pattern.Engine] (lo hi : Int64) :
    ofDefinition (numberBetween lo hi) =
      if (Double.ofInt hi.toInt).lt (Double.ofInt lo.toInt) then
        .error (.malformed ⟨[.field "f"], .boundsCrossed⟩)
      else .ok (.mk [("f", .mk false
        (.number ⟨some (Double.ofInt lo.toInt), some (Double.ofInt hi.toInt)⟩))]) := by
  obtain ⟨entries, hEntries⟩ : ∃ entries : Entries,
    [("type", .text "number"), ("minimum", .int lo), ("maximum", .int hi)] = entries := ⟨_, rfl⟩
  have hKind : readKind entries = .ok .number := hEntries ▸ rfl
  have hKeys : checkKeys .strict .number entries = .ok () := hEntries ▸ rfl
  have hRequired : readRequired .strict entries = .ok false := hEntries ▸ rfl
  have hBounds : readBounds entries =
      if (Double.ofInt hi.toInt).lt (Double.ofInt lo.toInt) then .error .boundsCrossed
      else .ok ⟨some (Double.ofInt lo.toInt), some (Double.ofInt hi.toInt)⟩ := hEntries ▸ rfl
  have hName : checkName "f" = .ok () := rfl
  rw [numberBetween, hEntries, ofDefinition, readFields, readFields, readEntry]
  simp only [readField, readShape, hName, hKind, hKeys, hRequired, hBounds, blame, List.nil_append]
  by_cases hCrossed : (Double.ofInt hi.toInt).lt (Double.ofInt lo.toInt) = true
  · simp only [if_pos hCrossed]
    rfl
  · simp only [if_neg hCrossed]
    rfl

theorem validate_numbered (rules : Rules) (n : Int64) (bounds : Bounds) :
    validate rules (.mk [("f", .mk false (.number bounds))]) (numbered n) = .ok () ↔
      bounds.check (Double.ofInt n.toInt) = .ok () := by
  have hShape : checkShape rules (.number bounds) (.int n) =
      ofLimit (bounds.check (Double.ofInt n.toInt)) := by
    rw [checkShape]
    rfl
  have hKeys : Validation.checkKeys rules [("f", .mk false (.number bounds))] [("f", .int n)] =
      .ok () := by
    unfold Validation.checkKeys
    split <;> rfl
  have hVerdict : under (.field "f") (ofLimit (bounds.check (Double.ofInt n.toInt))) = .ok () ↔
      bounds.check (Double.ofInt n.toInt) = .ok () := under_eq_ok_iff.trans ofLimit_eq_ok_iff
  rw [← hVerdict, numbered, validate, checkSchema]
  simp only [checkFields, List.lookup_cons_self, checkField, hShape]
  cases under (.field "f") (ofLimit (bounds.check (Double.ofInt n.toInt))) with
  | ok => exact iff_of_true hKeys rfl
  | error e => simp

theorem lt_ofInt_eq_false_iff (m n : Int64) :
    (Double.ofInt n.toInt).lt (Double.ofInt m.toInt) = false ↔
      m ≤ n ∨ Double.ofInt m.toInt = Double.ofInt n.toInt := by
  have hLess : (Double.ofInt n.toInt).lt (Double.ofInt m.toInt) = true ↔
      n.toInt < m.toInt ∧ Double.ofInt n.toInt ≠ Double.ofInt m.toInt :=
    Double.lt_ofInt_iff (Double.natAbs_toInt_lt n) (Double.natAbs_toInt_lt m)
  rw [Bool.eq_false_iff, ne_eq, hLess, not_and_or, not_lt, not_ne_iff, Int64.le_iff_toInt_le,
    eq_comm (a := Double.ofInt n.toInt)]

theorem exists_ofDefinition_numberBetween_iff [Pattern.Engine] (lo hi : Int64) :
    (∃ s, ofDefinition (numberBetween lo hi) = .ok s) ↔
      lo ≤ hi ∨ Double.ofInt lo.toInt = Double.ofInt hi.toInt := by
  rw [← lt_ofInt_eq_false_iff, ofDefinition_numberBetween]
  cases (Double.ofInt hi.toInt).lt (Double.ofInt lo.toInt) with
  | true => exact iff_of_false nofun nofun
  | false => exact iff_of_true ⟨_, rfl⟩ rfl

theorem validate_numberBetween_iff [Pattern.Engine] (rules : Rules) {lo hi : Int64} {s : Schema}
    (accepted : ofDefinition (numberBetween lo hi) = .ok s) (n : Int64) :
    validate rules s (numbered n) = .ok () ↔
      (lo ≤ n ∨ Double.ofInt lo.toInt = Double.ofInt n.toInt) ∧
        (n ≤ hi ∨ Double.ofInt n.toInt = Double.ofInt hi.toInt) := by
  rw [ofDefinition_numberBetween] at accepted
  split at accepted
  · cases accepted
  · cases accepted
    rw [validate_numbered, Bounds.check_eq_ok_iff, ← lt_ofInt_eq_false_iff, ← lt_ofInt_eq_false_iff]
    constructor
    · rintro ⟨hMin, hMax⟩
      exact ⟨hMin _ rfl, hMax _ rfl⟩
    · rintro ⟨hMin, hMax⟩
      constructor
      · rintro _ ⟨⟩
        exact hMin
      · rintro _ ⟨⟩
        exact hMax

/-- Only large integers have a double in common, and only with their neighbours. -/
theorem far_of_ofInt_eq {m n : Int64} (different : m ≠ n)
    (same : Double.ofInt m.toInt = Double.ofInt n.toInt) :
    2 ^ 53 ≤ m.toInt.natAbs ∧ 2 ^ 53 ≤ n.toInt.natAbs ∧ (m.toInt - n.toInt).natAbs ≤ 1024 := by
  have hInts : m.toInt ≠ n.toInt := fun h => different (Int64.toInt_inj.mp h)
  have hmRange : -2 ^ 63 ≤ m.toInt ∧ m.toInt < 2 ^ 63 := ⟨m.le_toInt, m.toInt_lt⟩
  have hnRange : -2 ^ 63 ≤ n.toInt ∧ n.toInt < 2 ^ 63 := ⟨n.le_toInt, n.toInt_lt⟩
  exact ⟨Double.le_natAbs_of_ofInt_eq (Double.natAbs_toInt_lt n) hInts same,
    Double.le_natAbs_of_ofInt_eq (Double.natAbs_toInt_lt m) hInts.symm same.symm,
    Double.natAbs_sub_le_of_ofInt_eq hmRange hnRange same⟩

/-- Integers, as bounds and between them, are told apart as far as their nearest doubles are. -/
theorem integer_bounds_rounded [Pattern.Engine] (rules : Rules) (lo hi : Int64) :
    ((∃ s, ofDefinition (numberBetween lo hi) = .ok s) ↔
      lo ≤ hi ∨ Double.ofInt lo.toInt = Double.ofInt hi.toInt) ∧
    (∀ s, ofDefinition (numberBetween lo hi) = .ok s → ∀ n : Int64,
      validate rules s (numbered n) = .ok () ↔
        (lo ≤ n ∨ Double.ofInt lo.toInt = Double.ofInt n.toInt) ∧
        (n ≤ hi ∨ Double.ofInt n.toInt = Double.ofInt hi.toInt)) ∧
    (∀ m n : Int64, m ≠ n → Double.ofInt m.toInt = Double.ofInt n.toInt →
      2 ^ 53 ≤ m.toInt.natAbs ∧ 2 ^ 53 ≤ n.toInt.natAbs ∧ (m.toInt - n.toInt).natAbs ≤ 1024) ∧
    ∀ n : Int64, (Double.ofInt n.toInt).Nearest n.toInt :=
  ⟨exists_ofDefinition_numberBetween_iff lo hi,
    fun _ hAccepted => validate_numberBetween_iff rules hAccepted,
    fun _ _ => far_of_ofInt_eq,
    fun n => Double.nearest_ofInt (Double.natAbs_toInt_lt n)⟩

theorem integer_bounds_rounded_two_apart :
    let lo : Int64 := 9007199254740993
    let hi : Int64 := 9007199254740995
    let bounds : Bounds := ⟨some (Double.ofInt lo.toInt), some (Double.ofInt hi.toInt)⟩
    let s : Schema := .mk [("f", .mk false (.number bounds))]
    ofDefinition (numberBetween lo hi) = .ok s ∧
      validate {} s (numbered 9007199254740991) ≠ .ok () ∧
      validate {} s (numbered 9007199254740992) = .ok () ∧
      validate {} s (numbered 9007199254740996) = .ok () ∧
      validate {} s (numbered 9007199254740997) = .ok () ∧
      validate {} s (numbered 9007199254740998) ≠ .ok () := by
  intro lo hi bounds s
  have hAccepted : ofDefinition (numberBetween lo hi) = .ok s := by
    rw [ofDefinition_numberBetween]
    exact if_neg (by decide +kernel)
  have hVerdict := (integer_bounds_rounded {} lo hi).2.1 s hAccepted
  simp only [ne_eq, hVerdict]
  exact ⟨hAccepted, by decide +kernel, by decide +kernel, by decide +kernel, by decide +kernel,
    by decide +kernel⟩

/-- Two integers that share a double: bounds that are the wrong way round are accepted, and so is a
number below its minimum. -/
theorem shared_double_not_told_apart :
    let even : Int64 := 9007199254740992
    let odd : Int64 := 9007199254740993
    (¬odd ≤ even ∧ ∃ s, ofDefinition (numberBetween odd even) = .ok s) ∧
      ∃ s, ofDefinition (numberBetween odd odd) = .ok s ∧ ¬odd ≤ even ∧
        validate {} s (numbered even) = .ok () := by
  intro even odd
  have hShared : Double.ofInt odd.toInt = Double.ofInt even.toInt := by decide +kernel
  obtain ⟨s, hAccepted⟩ := (exists_ofDefinition_numberBetween_iff odd odd).mpr (.inr rfl)
  exact ⟨⟨by decide, (exists_ofDefinition_numberBetween_iff odd even).mpr (.inr hShared)⟩,
    s, hAccepted, by decide,
    (validate_numberBetween_iff {} hAccepted even).mpr ⟨.inr hShared, .inl (by decide)⟩⟩

end Schema

end Intake
