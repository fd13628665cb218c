import Intake.Proofs.InstantText

/-! # Instants read back from record files

The reader of record files takes years with a sign too, so that it gives back every instant that
can be written.
-/

namespace Intake.Instant

open Text

variable {t : Instant}

theorem trimStart_cons {c : Char} (visible : isBlank c = false) (rest : List Char) :
    trimStart (c :: rest) = c :: rest :=
  List.dropWhile_cons_of_neg (by simp [visible])

theorem exists_cons_padded {width n : Nat} (hWidth : 0 < width) (h : n < 10 ^ width) :
    ∃ c rest, padded width (decimal n) = c :: rest ∧ isDigit c = true := by
  have hLength := length_padded hWidth h
  obtain ⟨c, rest, hText⟩ := List.exists_cons_of_length_pos (by omega : 0 < (padded width
    (decimal n)).length)
  exact ⟨c, rest, hText, isDigit_of_mem_padded (hText ▸ List.mem_cons_self)⟩

theorem trimStart_padded {width n : Nat} (hWidth : 0 < width) (h : n < 10 ^ width)
    (rest : List Char) :
    trimStart (padded width (decimal n) ++ rest) = padded width (decimal n) ++ rest := by
  obtain ⟨c, others, hText, hDigit⟩ := exists_cons_padded hWidth h
  rw [hText, List.cons_append, trimStart_cons (isBlank_of_isDigit hDigit)]

theorem takeWhile_take_padded {width n : Nat} (hWidth : 0 < width) (h : n < 10 ^ width)
    (rest : List Char) :
    ((padded width (decimal n) ++ rest).take width).takeWhile isDigit =
      padded width (decimal n) := by
  have hRun : (padded width (decimal n) ++ []).takeWhile isDigit =
      padded width (decimal n) ++ List.takeWhile isDigit [] :=
    List.takeWhile_append_of_pos fun c hMem => isDigit_of_mem_padded hMem
  rw [List.take_left' (length_padded hWidth h)]
  simpa using hRun

theorem looseField?_twoDigits {n : Nat} (h : n < 100) (rest : List Char) :
    looseField? (twoDigits n ++ rest) = some (n, rest) := by
  unfold looseField? twoDigits
  rw [trimStart_padded (by decide) h]
  dsimp only
  rw [takeWhile_take_padded (by decide) h, if_neg padded_ne_nil, digitsFrom_padded, List.drop_left]

theorem looseMark?_self {c : Char} (visible : isBlank c = false) (rest : List Char) :
    looseMark? c (c :: rest) = some rest := by
  unfold looseMark?
  rw [trimStart_cons visible, exactly?, if_pos rfl]

theorem looseYear?_minus (text : List Char) :
    looseYear? ('-' :: text) =
      if text.takeWhile isDigit = [] then none
      else some (-1 * (digitsFrom 0 (text.takeWhile isDigit) : Int), text.dropWhile isDigit) := rfl

theorem looseYear?_plus (text : List Char) :
    looseYear? ('+' :: text) =
      if text.takeWhile isDigit = [] then none
      else some (1 * (digitsFrom 0 (text.takeWhile isDigit) : Int), text.dropWhile isDigit) := rfl

theorem looseYear?_yearText (year : Int) (rest : List Char) :
    looseYear? (yearText year ++ '-' :: rest) = some (year, '-' :: rest) := by
  unfold yearText
  split
  · next hYear =>
    have hBound : year.toNat < 10 ^ 4 := by omega
    have hCast : (1 : Int) * (year.toNat : Nat) = year := by omega
    obtain ⟨c, others, hText, hDigit⟩ := exists_cons_padded (by decide : 0 < 4) hBound
    have hTake := takeWhile_take_padded (by decide : 0 < 4) hBound ('-' :: rest)
    unfold looseYear?
    rw [trimStart_padded (by decide) hBound]
    split
    · next h =>
      rw [hText] at h
      cases h
      cases hDigit
    · next h =>
      rw [hText] at h
      cases h
      cases hDigit
    · dsimp only
      rw [hTake, if_neg padded_ne_nil, digitsFrom_padded, List.drop_left, hCast]
  · next hYear =>
    have hMark : isDigit '-' = false := rfl
    by_cases hNegative : year < 0
    · have hSign : (-1 : Int) * (year.natAbs : Nat) = year := by omega
      rw [if_pos hNegative, List.cons_append, looseYear?_minus,
        takeWhile_isDigit_padded hMark, dropWhile_isDigit_padded hMark, if_neg padded_ne_nil,
        digitsFrom_padded, hSign]
    · have hSign : (1 : Int) * (year.natAbs : Nat) = year := by omega
      rw [if_neg hNegative, List.cons_append, looseYear?_plus,
        takeWhile_isDigit_padded hMark, dropWhile_isDigit_padded hMark, if_neg padded_ne_nil,
        digitsFrom_padded, hSign]

theorem looseOffset?_Z : looseOffset? ['Z'] = some (0, []) := by decide

/-- The years of the instants that can be written. -/
theorem year_of_inRange (h : t.inRange = true) : -262143 ≤ t.day.year ∧ t.day.year < 262143 := by
  simp only [inRange, Bool.and_eq_true, decide_eq_true_eq] at h
  unfold firstSecond endSecond at h
  have hLower : CalendarDay.dayNumber ⟨-262143, 1, 1⟩ ≤ t.second / 86400 := by omega
  have hUpper : t.second / 86400 < CalendarDay.dayNumber ⟨262143, 1, 1⟩ := by omega
  exact CalendarDay.year_ofDayNumber hLower hUpper

/-- Every instant that can be written is read back from its text. -/
theorem readLoose?_text (legal : t.IsLegal) : readLoose? t.text = some t := by
  obtain ⟨hMonth, hDay⟩ := CalendarDay.le_of_isReal (day_isReal t)
  have hTime := timeOfDay_isReal t
  simp only [TimeOfDay.isReal, Bool.and_eq_true, decide_eq_true_eq] at hTime
  obtain ⟨hFirst, hLast⟩ := year_of_inRange legal.inRange
  have hText : t.text = yearText t.day.year ++ '-' :: (twoDigits t.day.month ++
      '-' :: (twoDigits t.day.day ++ 'T' :: (twoDigits t.timeOfDay.hour ++
      ':' :: (twoDigits t.timeOfDay.minute ++ ':' :: (twoDigits t.timeOfDay.second ++
      (fractionText t.timeOfDay.nano ++ ['Z'])))))) := by
    simp [text, dayText, clockText]
  rw [hText, readLoose?, looseYear?_yearText]
  dsimp only [Option.bind_eq_bind, Option.bind_some]
  rw [looseMark?_self rfl]
  dsimp only [Option.bind_some]
  rw [looseField?_twoDigits (by omega)]
  dsimp only [Option.bind_some]
  rw [looseMark?_self rfl]
  dsimp only [Option.bind_some]
  rw [looseField?_twoDigits (by omega)]
  simp only [Option.bind_some, separator?]
  rw [looseField?_twoDigits (by omega)]
  dsimp only [Option.bind_some]
  rw [looseMark?_self rfl]
  dsimp only [Option.bind_some]
  rw [looseField?_twoDigits (by omega)]
  dsimp only [Option.bind_some]
  rw [looseMark?_self rfl]
  dsimp only [Option.bind_some]
  rw [looseField?_twoDigits (by omega)]
  dsimp only [Option.bind_some]
  rw [optionalFraction?_fractionText (nano_timeOfDay_lt legal)]
  dsimp only [Option.bind_some]
  rw [looseOffset?_Z]
  dsimp only [Option.bind_some]
  rw [if_pos ⟨rfl, by decide, hFirst, by omega⟩]
  exact ofLocal?_timeOfDay legal

end Intake.Instant
